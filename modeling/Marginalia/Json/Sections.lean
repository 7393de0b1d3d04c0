import Marginalia.Json.Read
import Marginalia.Section

/-!
# Sections as JSON

A list of sections is an object with the one member `sections`, an array of objects
with the members `comments` and `code`.

## Main definitions

* `Section.toJson`, `Section.listToJson`, `Section.writeList` — sections as JSON.
* `Section.ofJson?`, `Section.listOfJson?`, `Section.readList?` — and back.

Either object may also be read from an array of its members' values in order.  Members
with other names are passed over; one that is wanted must occur exactly once.
-/

namespace Marginalia
namespace Section

/-! ### Writing -/

/-- A section as JSON. -/
def toJson (s : Section) : Json :=
  .object [(some "comments".toList, .string (some s.comments)),
    (some "code".toList, .string (some s.code))]

/-- Sections as JSON. -/
def listToJson (ss : List Section) : Json :=
  .object [(some "sections".toList, .array (ss.map toJson))]

/-- Sections as the text of their JSON, on several lines. -/
def writeList (ss : List Section) : Text := (listToJson ss).pretty 0

/-! ### Reading -/

/-- The values of the members with a name. -/
def named (name : String) (members : List (Option Text × Json)) : List Json :=
  (members.filter fun m => m.1 == some name.toList).map (·.2)

/-- Whether the names of all members have a text. -/
def namesReadable (members : List (Option Text × Json)) : Bool :=
  members.all fun m => m.1.isSome

/-- A section with the given fields, which must be strings. -/
def ofFields? : Json → Json → Option Section
  | .string (some comments), .string (some code) => some ⟨comments, code⟩
  | _, _ => none

/-- The section that JSON describes. -/
def ofJson? : Json → Option Section
  | .object members =>
    if namesReadable members then
      match named "comments" members, named "code" members with
      | [comments], [code] => ofFields? comments code
      | _, _ => none
    else none
  | .array [comments, code] => ofFields? comments code
  | _ => none

/-- Sections that are the elements of an array. -/
def ofElements? : Json → Option (List Section)
  | .array elements => elements.mapM ofJson?
  | _ => none

/-- The sections that JSON describes. -/
def listOfJson? : Json → Option (List Section)
  | .object members =>
    if namesReadable members then
      match named "sections" members with
      | [v] => ofElements? v
      | _ => none
    else none
  | .array [v] => ofElements? v
  | _ => none

/-- The sections that a text of JSON describes. -/
def readList? (t : Text) : Option (List Section) := Json.read? t >>= listOfJson?

end Section
end Marginalia
