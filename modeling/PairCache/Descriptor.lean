import PairCache.Json.Decoder
import PairCache.Text.Outline

namespace PairCache

def version : String := "0.1.0"

structure Descriptor where
  name : String
  description : String
  version : String := PairCache.version
  author : Option String := none
deriving DecidableEq, Repr

namespace Descriptor

def toJson (d : Descriptor) : Json :=
  .object ([("name", .string d.name), ("description", .string d.description),
      ("version", .string d.version)] ++
    (d.author.map fun a => ("author", Json.string a)).toList)

def outline (d : Descriptor) : Outline :=
  .record "PluginDescriptor"
    [("name", .quoted d.name), ("description", .quoted d.description),
      ("version", .quoted d.version), ("author", .option (d.author.map .quoted))] false

structure Draft where
  name : Option String := none
  description : Option String := none
  version : Option String := none
  author : Option (Option String) := none

open Json.Decoder in
def decoder : Json.Decoder Descriptor :=
  record "PluginDescriptor"
    [field "name" Draft.name (fun s a => { s with name := some a }) text false,
      field "description" Draft.description (fun s a => { s with description := some a }) text false,
      field "version" Draft.version (fun s a => { s with version := some a }) text false,
      field "author" Draft.author (fun s a => { s with author := some a }) (option text) true]
    {}
    fun s => do
      return {
        name := ← required "name" s.name
        description := ← required "description" s.description
        version := ← required "version" s.version
        author := s.author.getD none }

end Descriptor

end PairCache
