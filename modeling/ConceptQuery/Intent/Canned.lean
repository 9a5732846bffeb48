import ConceptQuery.Intent.Basic
import ConceptQuery.Text.LetterCase

/-!
# Canned intents

A stand-in for the reading of prompts: one fixed intent for each of the two built-in variants.

* `Intent.cannedCountries`, `Intent.cannedGithub` — the two intents;
* `Intent.canned` — the one that stands for a variant tag.
-/

namespace ConceptQuery.Intent

/-- The intent of the simple variant. -/
def cannedCountries : Intent where
  action := defaultAction
  target := "country"
  identifier := "BR"
  subEntity := "continent"
  limit := 1
  constraints := []
  fields := ["name", "code"]
  api := "countries"

/-- The intent of the paginated variant. -/
def cannedGithub : Intent where
  action := defaultAction
  target := "user"
  identifier := "octocat"
  subEntity := "repositories"
  limit := 5
  constraints := ["most starred"]
  fields := ["name", "description", "stargazerCount"]
  api := "github"

/-- The intent that stands for a variant tag in any letter case: the first for its own tag, the
second for every other. -/
def canned (api : Option String) : Intent :=
  if Text.toLower (api.getD "") = "countries" then cannedCountries else cannedGithub

end ConceptQuery.Intent
