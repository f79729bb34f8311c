import TypedTemplate.Instant.ZoneData
import TypedTemplate.Instant.ZoneTable

/-!
# Zone names

Zones are named by relative paths such as `Asia/Tokyo`, case included.
-/
namespace TypedTemplate.ZoneName

/-- Whether a name is a relative path without empty or dotted steps and without null
characters. -/
def isPlain (name : Text) : Bool :=
  !name.contains '\x00'
    && (Text.splitOn '/' name).all fun part =>
      !part.isEmpty && part != ['.'] && part != ['.', '.']

/-- The names of lists about zones that stand among the zones. -/
def registers : List Text :=
  ["iso3166.tab", "leapseconds", "tzdata.zi", "zone.tab", "zone1970.tab", "zonenow.tab"]

def faultOf (name : Text) : Fault :=
  if registers.contains name then .zoneRegister
  else if ZoneData.isFolder name ZoneTable.lines then .zoneFolder
  else .unknownZone

def find (name : Text) : Except Fault Zone :=
  if !isPlain name then .error .malformedZoneName
  else
    match ZoneData.find? name ZoneTable.lines with
    | some zone => .ok zone
    | none => .error (faultOf name)

/-- Whether a name is that of a zone. To name a folder of zones is a fault of its own. -/
def isKnown (name : Text) : Except Fault Bool :=
  match find name with
  | .ok _ => .ok true
  | .error .zoneFolder => .error .zoneFolder
  | .error _ => .ok false

end TypedTemplate.ZoneName
