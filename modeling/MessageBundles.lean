import MessageBundles.Text.Blank
import MessageBundles.Text.Pieces
import MessageBundles.Text.Utf8
import MessageBundles.Dict
import MessageBundles.Number.Word64
import MessageBundles.Number.Binary64
import MessageBundles.Bundle.Properties
import MessageBundles.Reference
import MessageBundles.Module.Resolver
import MessageBundles.Json.Reader
import MessageBundles.Json.Writer
import MessageBundles.Url.Error
import MessageBundles.Url.Percent
import MessageBundles.Url.Ipv4
import MessageBundles.Url.Ipv6
import MessageBundles.Url.Punycode
import MessageBundles.Url.Domain
import MessageBundles.Url.Host
import MessageBundles.Url.Basic
import MessageBundles.Url.Parser
import MessageBundles.Url.FilePath
import MessageBundles.Web.Status
import MessageBundles.Fetch.Error
import MessageBundles.LoadError
import MessageBundles.Settings.Basic
import MessageBundles.Settings.Document
import MessageBundles.Settings.Validation
import MessageBundles.About
import MessageBundles.Files.Tree
import MessageBundles.Fetch.Directory
import MessageBundles.Web.Charset
import MessageBundles.Web.Network
import MessageBundles.Web.Client
import MessageBundles.Fetch.Fetcher
import MessageBundles.Loader
import MessageBundles.Session
import MessageBundles.Toml.Token
import MessageBundles.Toml.Scalar
import MessageBundles.Toml.Table
import MessageBundles.Toml.Reader
import MessageBundles.Text.Lowercase
import MessageBundles.Settings.Path
import MessageBundles.Settings.Tree
import MessageBundles.Settings.Loose
import MessageBundles.Settings.Source
import MessageBundles.Text.Alphanumeric
import MessageBundles.Environment.DotEnv
import MessageBundles.CommandLine.Arguments
import MessageBundles.CommandLine.Run
import MessageBundles.CommandLine.Reach
import MessageBundles.Main
import MessageBundles.Proofs.Results
import MessageBundles.Proofs.Text.Pieces
import MessageBundles.Proofs.Text.Pattern
import MessageBundles.Proofs.Text.Utf8
import MessageBundles.Proofs.Text.Lowercase
import MessageBundles.Proofs.Bundle.Enumeration
import MessageBundles.Proofs.Bundle.RoundTrip
import MessageBundles.Proofs.Files.Walk
import MessageBundles.Proofs.Fetch.Collapse
import MessageBundles.Proofs.Fetch.Confinement
import MessageBundles.Proofs.Module.Climbs
import MessageBundles.Proofs.Reference.Spellings
import MessageBundles.Proofs.Loader.CacheKey
import MessageBundles.Proofs.Loader.OneFetch
import MessageBundles.Proofs.Session.History
import MessageBundles.Proofs.Bundle.Patterns
import MessageBundles.Proofs.Module.Ancestors
import MessageBundles.Proofs.Settings.Overlay
import MessageBundles.Proofs.Settings.Fields
import MessageBundles.Proofs.Settings.Layers
import MessageBundles.Proofs.Settings.Prefixes
import MessageBundles.Proofs.Url.Append
import MessageBundles.Proofs.Locator.Chains
import MessageBundles.Proofs.Loader.Anchoring
import MessageBundles.Proofs.Url.Join
import MessageBundles.Proofs.Fetch.Interchange
import MessageBundles.Proofs.CommandLine.Independence
import MessageBundles.Proofs.Fetch.Outcomes
import MessageBundles.Proofs.Module.NormalForm
import MessageBundles.Proofs.Json.Texts
import MessageBundles.Proofs.CommandLine.Outputs
import MessageBundles.Proofs.Bundle.Composition
import MessageBundles.Proofs.Settings.Forms
import MessageBundles.Proofs.Url.Files
import MessageBundles.Proofs.Loader.BareNames
import MessageBundles.Proofs.Module.Overrides
import MessageBundles.Proofs.Settings.Validated
