import ConceptQuery.Main
import ConceptQuery.Web.App
import ConceptQuery.Proofs.Cache.Key
import ConceptQuery.Proofs.Compile
import ConceptQuery.Proofs.Service.Pipeline
import ConceptQuery.Proofs.Service.Run
import ConceptQuery.Proofs.Service.Transparency
import ConceptQuery.Proofs.Cache.History
import ConceptQuery.Proofs.Cache.Lifetimes
import ConceptQuery.Proofs.Cache.Redis
import ConceptQuery.Proofs.Service.Backends
import ConceptQuery.Proofs.Service.Request
import ConceptQuery.Proofs.Service.Answer
import ConceptQuery.Proofs.Service.Bypass
import ConceptQuery.Proofs.Web.Reporting
import ConceptQuery.Proofs.Service.Stages
import ConceptQuery.Proofs.Json.Grammar
import ConceptQuery.Proofs.Json.Strings
import ConceptQuery.Proofs.Json.Numbers
import ConceptQuery.Proofs.Json.Reading
import ConceptQuery.Proofs.Intent.Counts
import ConceptQuery.Proofs.Intent.Acceptance
import ConceptQuery.Proofs.Sparql.Token
import ConceptQuery.Proofs.Sparql.Lexing
import ConceptQuery.Proofs.Sparql.Grammar
import ConceptQuery.Proofs.Sparql.Evaluation
import ConceptQuery.Proofs.Cache.Statement
import ConceptQuery.Proofs.Json.Document
import ConceptQuery.Proofs.Cache.Stored
import ConceptQuery.Proofs.Json.Printing
import ConceptQuery.Proofs.Sparql.Endpoint
import ConceptQuery.Proofs.Cache.Blazegraph
import ConceptQuery.Proofs.Intent.WireForm
import ConceptQuery.Proofs.Service.Account
import ConceptQuery.Proofs.Service.Crowd
import ConceptQuery.Proofs.Service.Interleaving
import ConceptQuery.Proofs.Cache.LastWriter
import ConceptQuery.Proofs.Catalogue
import ConceptQuery.Proofs.Service.Origin
import ConceptQuery.Proofs.Ontology.Resolver
import ConceptQuery.Proofs.Ontology.Loading
import ConceptQuery.Proofs.Cache.Replies
import ConceptQuery.Proofs.Service.Results
import ConceptQuery.Proofs.Time.Range
import ConceptQuery.Proofs.Cache.Hashes
import ConceptQuery.Proofs.Service.Hashes
import ConceptQuery.Proofs.GraphQL.Splicing
import ConceptQuery.Proofs.Text.LetterCase
import ConceptQuery.Proofs.Ontology.Registering
import ConceptQuery.Proofs.Ontology.Replacing
import ConceptQuery.Proofs.Ontology.Loaded
import ConceptQuery.Proofs.Cache.KeySpelling
import ConceptQuery.Proofs.GraphQL.Indentation
import ConceptQuery.Proofs.Service.Trace
import ConceptQuery.Proofs.Service.Delivery
import ConceptQuery.Proofs.Service.Abort
import ConceptQuery.Proofs.Cache.Prefixes
import ConceptQuery.Proofs.Cache.Counting
import ConceptQuery.Proofs.Variant.History
import ConceptQuery.Proofs.Dispatch
import ConceptQuery.Proofs.Cache.Atomicity
import ConceptQuery.Proofs.Intent.Effective
import ConceptQuery.Proofs.Influence
import ConceptQuery.Proofs.Time.Moments
import ConceptQuery.Proofs.Cache.Ages
import ConceptQuery.Proofs.Ontology.Growth
import ConceptQuery.Proofs.GraphQL.Escaping
import ConceptQuery.Proofs.Sparql.Literal
import ConceptQuery.Proofs.Ontology.Document
