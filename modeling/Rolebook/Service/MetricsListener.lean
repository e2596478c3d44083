import Rolebook.Http.Route
import Rolebook.Http.Message
import Rolebook.Metrics

/-!
# The listener for metrics

A second listener shows the metrics, on one path and to those who only read.
-/

namespace Rolebook.Service

open Rolebook.Http (Request Response pathOf)

/-- The path of the metrics. -/
def metricsPath : String := "/metrics"

/-- The methods by which the metrics can be read. -/
def metricsMethods : List String := ["GET", "HEAD"]

/-- The response of the listener for metrics to a request. -/
def metricsResponse (metrics : Metrics) (request : Request) : Response :=
  if pathOf request.target ≠ metricsPath.toList then
    .ofStatus 404
  else if !metricsMethods.contains request.method then
    { Response.ofStatus 405 with allow := some metricsMethods }
  else if request.method = "HEAD" then
    .ofStatus 200
  else
    .ofText 200 metrics.page

end Rolebook.Service
