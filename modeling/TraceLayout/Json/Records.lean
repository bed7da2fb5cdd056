import TraceLayout.Json.Form
import TraceLayout.Kernel.KernelFormat
import TraceLayout.Layout.Table
import TraceLayout.Settings.Basic

/-! The JSON forms of declarations, kernel formats, layouts and settings. -/
namespace TraceLayout
open Json

instance : JsonForm Width where
  encode width := .string width.key
  decodeIn? _ := named? Width.key Width.all

instance : JsonForm KernelType where
  encode type := .string type.key
  decodeIn? _ := named? KernelType.key KernelType.all

instance : JsonForm ProtoType where
  encode type := .string type.text
  decodeIn? _ := named? ProtoType.text ProtoType.all

/-- The kind of a conversion, which is the key that tells its variants apart. -/
def Conversion.kind : Conversion → String
  | .zeroExtend _ _ => "uint"
  | .signExtend _ _ => "int"
  | .bool => "bool"
  | .charArray => "fixed_c_string"
  | .charRun => "c_string"
  | .dataLoc => "data_loc"

/-- A conversion is an object with its kind and, if it reads integers, the two widths. It is kept as
a whole until its kind is known, so even what is in it without a meaning has to allow this. -/
instance : JsonForm Conversion where
  encode conversion :=
    let widths : List (String × Json) := match conversion with
      | .zeroExtend source target | .signExtend source target =>
        [("from", JsonForm.encode source), ("to", JsonForm.encode target)]
      | .bool | .charArray | .charRun | .dataLoc => []
    .object (("kind", .string conversion.kind) :: widths)
  decodeIn?
    | room, .object members => do
      if canKeep room (.object members) then
        let kind : String ← required? room members "kind"
        let width (key : String) : Option Width := required? room members key
        match kind with
        | "uint" => return .zeroExtend (← width "from") (← width "to")
        | "int" => return .signExtend (← width "from") (← width "to")
        | "bool" => return .bool
        | "fixed_c_string" => return .charArray
        | "c_string" => return .charRun
        | "data_loc" => return .dataLoc
        | _ => none
      else none
    | _, _ => none

instance : JsonForm DeclaredField where
  encode field := .object [
    ("ftrace_name", JsonForm.encode field.name),
    ("proto_field_id", JsonForm.encode field.number),
    ("proto_field_type", JsonForm.encode field.type)]
  decodeIn?
    | room, .object members => do
      return {
        name := ← required? room members "ftrace_name"
        number := ← required? room members "proto_field_id"
        type := ← required? room members "proto_field_type" }
    | _, _ => none

instance : JsonForm DeclaredEvent where
  encode event := .object [
    ("name", JsonForm.encode event.name),
    ("group", JsonForm.encode event.group),
    ("proto_field_id", JsonForm.encode event.number),
    ("fields", JsonForm.encode event.fields)]
  decodeIn?
    | room, .object members => do
      return {
        name := ← required? room members "name"
        group := ← required? room members "group"
        number := ← required? room members "proto_field_id"
        fields := ← required? room members "fields" }
    | _, _ => none

/-- A kernel type that is not given counts as unknown. -/
instance : JsonForm KernelField where
  encode field := .object [
    ("type_and_name", JsonForm.encode field.declaration),
    ("offset", JsonForm.encode field.offset),
    ("size", JsonForm.encode field.size),
    ("is_signed", JsonForm.encode field.signed),
    ("ftrace_type", JsonForm.encode field.type?)]
  decodeIn?
    | room, .object members => do
      return {
        declaration := ← required? room members "type_and_name"
        offset := ← required? room members "offset"
        size := ← required? room members "size"
        signed := ← required? room members "is_signed"
        type? := ← optional? room members "ftrace_type" none }
    | _, _ => none

instance : JsonForm KernelFormat where
  encode format := .object [
    ("name", JsonForm.encode format.name),
    ("id", JsonForm.encode format.id),
    ("fields", JsonForm.encode format.fields),
    ("common_fields", JsonForm.encode format.header)]
  decodeIn?
    | room, .object members => do
      return {
        name := ← required? room members "name"
        id := ← required? room members "id"
        fields := ← required? room members "fields"
        header := ← required? room members "common_fields" }
    | _, _ => none

instance : JsonForm ByteSpan where
  encode span := .object [
    ("ftrace_offset", JsonForm.encode span.offset),
    ("ftrace_size", JsonForm.encode span.size)]
  decodeIn?
    | room, .object members => do
      return {
        offset := ← required? room members "ftrace_offset"
        size := ← required? room members "ftrace_size" }
    | _, _ => none

instance : JsonForm FieldLayout where
  encode field := .object [
    ("ftrace_name", JsonForm.encode field.name),
    ("proto_field_id", JsonForm.encode field.number),
    ("proto_field_type", JsonForm.encode field.proto),
    ("ftrace_offset", JsonForm.encode field.offset),
    ("ftrace_size", JsonForm.encode field.size),
    ("ftrace_type", JsonForm.encode field.kernel),
    ("strategy", JsonForm.encode field.conversion)]
  decodeIn?
    | room, .object members => do
      return {
        name := ← required? room members "ftrace_name"
        number := ← required? room members "proto_field_id"
        proto := ← required? room members "proto_field_type"
        offset := ← required? room members "ftrace_offset"
        size := ← required? room members "ftrace_size"
        kernel := ← required? room members "ftrace_type"
        conversion := ← required? room members "strategy" }
    | _, _ => none

instance : JsonForm EventLayout where
  encode event := .object [
    ("name", JsonForm.encode event.name),
    ("group", JsonForm.encode event.group),
    ("proto_field_id", JsonForm.encode event.number),
    ("ftrace_event_id", JsonForm.encode event.id),
    ("fields", JsonForm.encode event.fields),
    ("size", JsonForm.encode event.size)]
  decodeIn?
    | room, .object members => do
      return {
        name := ← required? room members "name"
        group := ← required? room members "group"
        number := ← required? room members "proto_field_id"
        id := ← required? room members "ftrace_event_id"
        fields := ← required? room members "fields"
        size := ← required? room members "size" }
    | _, _ => none

/-- Settings that are not given take the values of the empty settings. -/
instance : JsonForm Settings where
  encode settings := .object [
    ("tracefs_root", JsonForm.encode settings.root?),
    ("events", JsonForm.encode settings.filters),
    ("verify_common_fields", JsonForm.encode settings.verifyHeaders)]
  decodeIn?
    | room, .object members => do
      return {
        root? := ← optional? room members "tracefs_root" none
        filters := ← optional? room members "events" []
        verifyHeaders := ← optional? room members "verify_common_fields" true }
    | _, _ => none

def NameIndex.toJson (index : NameIndex) : Json :=
  .object (index.entries.map fun (name, slot) => (name, .natural slot))

/-- The whole table, blank entries included. -/
def Table.toJson (table : Table) : Json :=
  .object [
    ("events", JsonForm.encode table.slots.toList),
    ("name_to_event", table.names.toJson),
    ("common_fields", JsonForm.encode table.header)]

end TraceLayout
