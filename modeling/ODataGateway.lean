import ODataGateway.Main
import ODataGateway.Service.Router
import ODataGateway.Proofs.Query.Reading
import ODataGateway.Proofs.Text.Runs
import ODataGateway.Proofs.Number.Nearest
import ODataGateway.Proofs.Query.LiteralSpelling
import ODataGateway.Proofs.Query.FilterGrammar
import ODataGateway.Proofs.Plan.Answer
import ODataGateway.Proofs.Text.Base64
import ODataGateway.Proofs.Text.Utf8
import ODataGateway.Proofs.Http.BasicScheme
import ODataGateway.Proofs.Number.ReadsBack
import ODataGateway.Proofs.Json.Members
import ODataGateway.Proofs.Json.Numbers
import ODataGateway.Proofs.Json.RoundTrip
import ODataGateway.Proofs.Plan.Degraded
import ODataGateway.Proofs.Query.NumberText
import ODataGateway.Proofs.Service.Guard
import ODataGateway.Proofs.Service.Served
import ODataGateway.Proofs.Number.Spelled
import ODataGateway.Proofs.Number.Counts
import ODataGateway.Proofs.Plan.Drawn
import ODataGateway.Proofs.Plan.Pages
import ODataGateway.Proofs.Row.Shape
import ODataGateway.Proofs.Query.Pairs
import ODataGateway.Proofs.Service.Asking
import ODataGateway.Proofs.Service.Collection
import ODataGateway.Proofs.Service.Outbound
import ODataGateway.Proofs.Plan.Sorted
import ODataGateway.Proofs.Query.Diagnosed
import ODataGateway.Proofs.Document.Described
import ODataGateway.Proofs.Document.Declared
import ODataGateway.Proofs.Plan.Filtered
import ODataGateway.Proofs.Json.NumberSpelling
import ODataGateway.Proofs.Row.Respelled
import ODataGateway.Proofs.Query.ZeroSign
import ODataGateway.Proofs.Query.Ties
import ODataGateway.Proofs.Query.Dated
import ODataGateway.Proofs.Plan.Consecutive
import ODataGateway.Proofs.Plan.ZeroSign
import ODataGateway.Proofs.Query.OrderTokens
import ODataGateway.Proofs.Query.PageBounds
import ODataGateway.Proofs.Service.Environment
import ODataGateway.Proofs.Query.Session
import ODataGateway.Proofs.Http.Comparison
