import Inflection.Json.Writer
import Inflection.Log.State

/-! # Lines of a log

A record is one line: a JSON object with the fields of its event, or the severity, the name and the
fields side by side.
-/

namespace Inflection.Log

def Event.members (event : Event) : List (List Char × Json) :=
  event.fields ++
    [("event".toList, .str event.name), ("logger".toList, .str event.logger),
     ("level".toList, Json.ofString event.severity.name)]

def Record.line (record : Record) : List Char :=
  match record.format with
  | .json => (Json.obj record.event.members).write
  | .console =>
    let fields := record.event.fields.map fun (name, value) => name ++ '=' :: value.literal
    " ".toList.intercalate
      (('[' :: record.event.severity.name.toList ++ [']']) :: record.event.name ::
        ('[' :: record.event.logger ++ [']']) :: fields)

end Inflection.Log
