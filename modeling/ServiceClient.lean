import ServiceClient.Call.Builder
import ServiceClient.Call.Client
import ServiceClient.Call.Error
import ServiceClient.Call.Handler
import ServiceClient.Call.Log
import ServiceClient.Call.Session
import ServiceClient.Call.Template
import ServiceClient.Component.Codec
import ServiceClient.Component.Command
import ServiceClient.Component.Contract
import ServiceClient.Component.ErrorDecoder
import ServiceClient.Component.Interceptor
import ServiceClient.Component.Kind
import ServiceClient.Component.QueryMap
import ServiceClient.Decimal.Reading
import ServiceClient.Decimal.Shortest
import ServiceClient.Declaration.Address
import ServiceClient.Declaration.Basic
import ServiceClient.Declaration.Describe
import ServiceClient.Declaration.Placeholder
import ServiceClient.Declaration.View
import ServiceClient.Duration
import ServiceClient.Factory.Basic
import ServiceClient.Factory.Creation
import ServiceClient.Factory.Error
import ServiceClient.Factory.Operation
import ServiceClient.Factory.Resolution
import ServiceClient.Http.Headers
import ServiceClient.Http.Message
import ServiceClient.Http.Status
import ServiceClient.Http.View
import ServiceClient.Json.Basic
import ServiceClient.Json.Printer
import ServiceClient.Json.Reader
import ServiceClient.Json.Shape
import ServiceClient.Proofs.Call.Retry
import ServiceClient.Proofs.Call.Setting
import ServiceClient.Proofs.Factory.Layers
import ServiceClient.Proofs.Scope.Lookup
import ServiceClient.Properties.Basic
import ServiceClient.Properties.Codec
import ServiceClient.Properties.Document
import ServiceClient.Scope.Basic
import ServiceClient.Scope.Catalog
import ServiceClient.Scope.Chain
import ServiceClient.Scope.Contexts
import ServiceClient.Scope.Tree
import ServiceClient.Settings
import ServiceClient.Table
import ServiceClient.Text.Blank
import ServiceClient.Text.CodeSet
import ServiceClient.Text.Printable
import ServiceClient.Text.Quoted
import ServiceClient.Text.Utf8
import ServiceClient.Transport.Basic
import ServiceClient.Transport.Script
import ServiceClient.TypeRef
import ServiceClient.Url.Address
import ServiceClient.Url.Basic
import ServiceClient.Url.Domain.Classes
import ServiceClient.Url.Domain.Composition
import ServiceClient.Url.Domain.CompositionTable
import ServiceClient.Url.Domain.Label
import ServiceClient.Url.Domain.Mapping
import ServiceClient.Url.Domain.MappingTable
import ServiceClient.Url.Domain.Punycode
import ServiceClient.Url.Error
import ServiceClient.Url.Form
import ServiceClient.Url.Host
import ServiceClient.Url.Parser
import ServiceClient.Url.Path
import ServiceClient.Url.Percent
import ServiceClient.Yaml.Anchors
import ServiceClient.Yaml.Cursor
import ServiceClient.Yaml.Document
import ServiceClient.Yaml.Folding
import ServiceClient.Yaml.Layout
import ServiceClient.Yaml.Literal
import ServiceClient.Yaml.Node
import ServiceClient.Yaml.Plain
import ServiceClient.Yaml.Quoted
import ServiceClient.Yaml.Scalar
import ServiceClient.Yaml.Tag
import ServiceClient.Yaml.Token
import ServiceClient.Yaml.Value
import ServiceClient.Proofs.Factory.Precedence
import ServiceClient.Proofs.Scope.Contexts
import ServiceClient.Proofs.Factory.Run
import ServiceClient.Proofs.Factory.Isolation
import ServiceClient.Proofs.Factory.Agreement
import ServiceClient.Proofs.Factory.Erasure
import ServiceClient.Proofs.Scope.History
import ServiceClient.Proofs.Factory.Creation
import ServiceClient.Proofs.Scope.Visible
import ServiceClient.Proofs.Factory.Interceptors
import ServiceClient.Proofs.Factory.Cache
import ServiceClient.Proofs.Factory.Confinement
import ServiceClient.Proofs.Scope.Nearest
import ServiceClient.Proofs.Factory.Renewal
import ServiceClient.Proofs.Factory.Routing
import ServiceClient.Proofs.Call.Repetition
import ServiceClient.Proofs.Call.Fallback
import ServiceClient.Proofs.Steps
import ServiceClient.Proofs.Url.Host
import ServiceClient.Proofs.Call.Server
import ServiceClient.Proofs.Declaration.Routable
import ServiceClient.Scope.Contexts.Operation
import ServiceClient.Proofs.Text.Utf8
import ServiceClient.Proofs.Scope.Preparation
import ServiceClient.Proofs.Declaration.Expansion
import ServiceClient.Proofs.Factory.Demands
import ServiceClient.Proofs.Declaration.Checks
import ServiceClient.Proofs.Call.Admission
import ServiceClient.Proofs.Call.Logging
import ServiceClient.Proofs.Factory.Customization
import ServiceClient.Proofs.Factory.Executions
import ServiceClient.Proofs.Url.Trailing
import ServiceClient.Proofs.Declaration.NormalPath
import ServiceClient.Proofs.Declaration.NormalAddress
import ServiceClient.Proofs.Call.Layering
import ServiceClient.Proofs.Text.Reading
import ServiceClient.Proofs.Url.Form
import ServiceClient.Proofs.Call.Queries
import ServiceClient.Proofs.Factory.Registry
import ServiceClient.Proofs.Factory.Failure
import ServiceClient.Proofs.Call.Wrapping
import ServiceClient.Proofs.Call.Dropping
import ServiceClient.Proofs.Call.Deferral
import ServiceClient.Proofs.Properties.Records
import ServiceClient.Proofs.Properties.RoundTrip
