import ShardOperator.Api.Request

namespace ShardOperator

/-- The parts of the query are sorted. -/
def ApiRequest.toJson (r : ApiRequest) : Json := .obj [
  ("method", .str r.method), ("path", .str r.target.path),
  ("query", .ofTexts r.target.query.mergeSort), ("body", r.body.getD .null)]

end ShardOperator
