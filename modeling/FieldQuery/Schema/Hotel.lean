import FieldQuery.Schema.Record

/-!
# A hotel

Records of a hotel and a few of unusual shape, with their object types.
-/

namespace FieldQuery.Hotel

open Record

def int : Held := .one (.scalar .int)
def float : Held := .one (.scalar .float)
def string : Held := .one (.scalar .string)
def boolean : Held := .one (.scalar .boolean)
def date : Held := .one (.scalar .date)
def dateTime : Held := .one (.scalar .dateTime)
def custom (name : String) : Held := .one (.scalar (.ofName name))
def enumeration (name : String) : Held := .one (.enumeration name)

/-- A record within a record is known by the name of its type. -/
def ref (name : String) : Held := .one (.object (typeName name))

def roomDetail : ObjectType :=
  objectType "RoomDetail" [field "id" int, field "windows" int, field "beds" int]

def room : ObjectType :=
  objectType "Room"
    [field "id" int, field "name" string, field "number" int, field "allowed_smoking" boolean,
      field "status" (enumeration "RoomStatus"), field "room_detail" (ref "RoomDetail")]

def building : ObjectType :=
  objectType "Building"
    [field "rooms" (.optional (.many (ref "Room"))), field "id" int, field "name" string]

def guest : ObjectType :=
  objectType "Guest"
    [field "id" int, field "name" string, field "register_date" dateTime,
      field "nullable_int" (.optional int)]

def extra : ObjectType := objectType "Extra" [field "test" (.optional string)]

def reservation : ObjectType :=
  objectType "Reservation"
    [field "id" int, field "checkin_date" date, field "checkout_date" dateTime,
      field "guest" (.optional (ref "Guest")), field "room" (.optional (ref "Room")),
      field "extras" (.many (ref "Extra"))]

def flatRoom : ObjectType where
  name := "FlatRoom"
  model := "FlatRoomModel"
  fields := [field "number" int, { field "beds" int with description := some "Beds in the room" }]

def odd : ObjectType where
  name := typeName "OddType"
  model := "OddModel"
  fields :=
    [field "type" int, field "line2_text" (.optional float), field "html_url_v10" string,
      field "mixedCase" string, field "_leading" boolean,
      { field "documented" int with description := some "First line. Second line.  Fourth line." },
      { field "renamed" int with name := "re_named", description := some "Explicit" },
      field "boxed" (ref "RoomDetail"), field "opt_boxed" (.optional (ref "Extra")),
      field "boxed_list" (.optional (.many (.optional int))),
      field "matrix" (.many (.many (.optional float))),
      field "maybe_list" (.optional (.many (.optional (ref "Guest")))),
      field "stamps" (.many dateTime), field "at" (.optional dateTime),
      field "price" (.optional (custom "Decimal")), field "key" (custom "ID"),
      field "days" (.many (custom "Date")),
      field "statuses" (.many (.optional (enumeration "RoomStatus"))),
      { field "unnamed" int with name := "" }]

def bare : ObjectType := objectType "Type" [field "id" int]

def node : ObjectType :=
  objectType "NodeTypeType"
    [field "id" int, field "parent" (.optional (ref "NodeTypeType")),
      field "children" (.many (ref "NodeTypeType"))]

def blank : ObjectType := objectType "Empty" []

/-- The object types by the names of their records. -/
def records : List (String × ObjectType) :=
  [("RoomDetail", roomDetail), ("Room", room), ("Building", building), ("Guest", guest),
    ("Extra", extra), ("Reservation", reservation), ("FlatRoomType", flatRoom), ("OddType", odd),
    ("Type", bare), ("NodeTypeType", node), ("Empty", blank)]

def objectType? (name : String) : Option ObjectType := records.lookup name

end FieldQuery.Hotel
