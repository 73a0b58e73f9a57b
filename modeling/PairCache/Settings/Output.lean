import PairCache.Json.Decoder
import PairCache.Text.Outline

namespace PairCache

structure OutputSettings where
  json : Bool := false
  logJson : Bool := false
deriving DecidableEq, Repr

namespace OutputSettings

def toJson (o : OutputSettings) : Json :=
  .object [("json", .bool o.json), ("log_json", .bool o.logJson)]

def outline (o : OutputSettings) : Outline :=
  .record "OutputConfig" [("json", .bool o.json), ("log_json", .bool o.logJson)] false

structure Draft where
  json : Option Bool := none
  logJson : Option Bool := none

open Json.Decoder in
def decoder : Json.Decoder OutputSettings :=
  record "OutputConfig"
    [field "json" Draft.json (fun s a => { s with json := some a }) bool true,
      field "log_json" Draft.logJson (fun s a => { s with logJson := some a }) bool true]
    {}
    fun s => .ok { json := s.json.getD false, logJson := s.logJson.getD false }

end OutputSettings

end PairCache
