import ConceptQuery.Ontology.Stores

/-!
# The packaged documents

The mapping documents of the two built-in variants, and the directory that holds them.

* `Ontology.githubDocument`, `Ontology.countriesDocument` — the documents, line by line;
* `Ontology.packaged` — the directory.
-/

namespace ConceptQuery.Ontology

/-- The document of the paginated variant. -/
def githubDocument : List String := [
  "@prefix ex: <http://example.org/ontology#> .",
  "@prefix rdfs: <http://www.w3.org/2000/01/rdf-schema#> .",
  "",
  "# Concept mappings for the GitHub GraphQL API (https://api.github.com/graphql).",
  "",
  "# Targets",
  "",
  "ex:User a ex:TargetConcept ;",
  "    rdfs:label \"user\" ;",
  "    ex:mapsToField \"user\" ;",
  "    ex:identifierArgument \"login\" .",
  "",
  "ex:Organization a ex:TargetConcept ;",
  "    rdfs:label \"organization\" ;",
  "    ex:mapsToField \"organization\" ;",
  "    ex:identifierArgument \"login\" .",
  "",
  "# Sub-entities",
  "",
  "ex:Repositories a ex:SubEntityConcept ;",
  "    rdfs:label \"repositories\" ;",
  "    ex:mapsToField \"repositories\" ;",
  "    ex:mapsToGraphQLType \"RepositoryConnection\" .",
  "",
  "ex:StarredRepositories a ex:SubEntityConcept ;",
  "    rdfs:label \"starred repositories\" ;",
  "    ex:mapsToField \"starredRepositories\" ;",
  "    ex:mapsToGraphQLType \"StarredRepositoryConnection\" .",
  "",
  "ex:Followers a ex:SubEntityConcept ;",
  "    rdfs:label \"followers\" ;",
  "    ex:mapsToField \"followers\" ;",
  "    ex:mapsToGraphQLType \"FollowerConnection\" .",
  "",
  "ex:Issues a ex:SubEntityConcept ;",
  "    rdfs:label \"issues\" ;",
  "    ex:mapsToField \"issues\" ;",
  "    ex:mapsToGraphQLType \"IssueConnection\" .",
  "",
  "# Constraints",
  "",
  "ex:MostStarred a ex:ConstraintConcept ;",
  "    rdfs:label \"most starred\" ;",
  "    ex:mapsToArgumentField \"orderBy\" ;",
  "    ex:mapsToOrderingField \"STARGAZERS\" ;",
  "    ex:defaultDirection \"DESC\" .",
  "",
  "ex:MostRecent a ex:ConstraintConcept ;",
  "    rdfs:label \"most recent\" ;",
  "    ex:mapsToArgumentField \"orderBy\" ;",
  "    ex:mapsToOrderingField \"CREATED_AT\" ;",
  "    ex:defaultDirection \"DESC\" .",
  "",
  "ex:RecentlyUpdated a ex:ConstraintConcept ;",
  "    rdfs:label \"recently updated\" ;",
  "    ex:mapsToArgumentField \"orderBy\" ;",
  "    ex:mapsToOrderingField \"UPDATED_AT\" ;",
  "    ex:defaultDirection \"DESC\" .",
  "",
  "ex:Alphabetical a ex:ConstraintConcept ;",
  "    rdfs:label \"alphabetical\" ;",
  "    ex:mapsToArgumentField \"orderBy\" ;",
  "    ex:mapsToOrderingField \"NAME\" ;",
  "    ex:defaultDirection \"ASC\" ."]

/-- The document of the simple variant. -/
def countriesDocument : List String := [
  "@prefix ex: <http://example.org/ontology#> .",
  "@prefix rdfs: <http://www.w3.org/2000/01/rdf-schema#> .",
  "",
  "# Concept mappings for the Countries GraphQL API (https://countries.trevorblades.com/).",
  "# This API has no pagination or ordering arguments, so there are no constraint concepts.",
  "",
  "ex:Country a ex:TargetConcept, ex:SubEntityConcept ;",
  "    rdfs:label \"country\" ;",
  "    ex:mapsToField \"country\" ;",
  "    ex:identifierArgument \"code\" ;",
  "    ex:mapsToGraphQLType \"Country\" .",
  "",
  "ex:Continent a ex:TargetConcept, ex:SubEntityConcept ;",
  "    rdfs:label \"continent\" ;",
  "    ex:mapsToField \"continent\" ;",
  "    ex:identifierArgument \"code\" ;",
  "    ex:mapsToGraphQLType \"Continent\" .",
  "",
  "ex:Language a ex:TargetConcept ;",
  "    rdfs:label \"language\" ;",
  "    ex:mapsToField \"language\" ;",
  "    ex:identifierArgument \"code\" .",
  "",
  "ex:Countries a ex:SubEntityConcept ;",
  "    rdfs:label \"countries\" ;",
  "    ex:mapsToField \"countries\" ;",
  "    ex:mapsToGraphQLType \"Country\" .",
  "",
  "ex:Languages a ex:SubEntityConcept ;",
  "    rdfs:label \"languages\" ;",
  "    ex:mapsToField \"languages\" ;",
  "    ex:mapsToGraphQLType \"Language\" .",
  "",
  "ex:States a ex:SubEntityConcept ;",
  "    rdfs:label \"states\" ;",
  "    ex:mapsToField \"states\" ;",
  "    ex:mapsToGraphQLType \"State\" .",
  "",
  "ex:Subdivisions a ex:SubEntityConcept ;",
  "    rdfs:label \"subdivisions\" ;",
  "    ex:mapsToField \"subdivisions\" ;",
  "    ex:mapsToGraphQLType \"Subdivision\" ."]

/-- Lines as the bytes of a document. -/
def bytesOfLines (lines : List String) : List UInt8 :=
  (String.join (lines.map (· ++ "\n"))).toUTF8.toList

/-- The directory of the packaged documents. -/
def packaged : Directory :=
  .ofList [
    ("graphql_github.ttl", bytesOfLines githubDocument),
    ("graphql_countries.ttl", bytesOfLines countriesDocument)]

end ConceptQuery.Ontology
