/-
Descriptions of modules that are read back.  Every record reads its members by name,
and a marker keeps its members until its kind has told which record they belong to.
-/

import GuestGlue.Codec.Module
import GuestGlue.Proofs.Json.ReadBack

namespace GuestGlue.Codec

open Json

theorem reads_type (type : TypeRef) : Reads decodeType (encodeType type) type :=
  (reads_string type.name).map TypeRef.mk

theorem reads_nullable (value : Option String) :
    Reads (decodeOption decodeString) (nullable value) value := by
  intro depth node shows
  cases value with
  | none =>
      cases shows
      rfl
  | some value =>
      cases shows
      rfl

theorem reads_parameter (parameter : Parameter) :
    Reads decodeParameter (encodeParameter parameter) parameter := by
  have name : ReadsMember parameterRecord.fields ("name", .string parameter.name)
      (.name parameter.name) :=
    ⟨_, rfl, (reads_string parameter.name).map _⟩
  have type : ReadsMember parameterRecord.fields ("type", encodeType parameter.type)
      (.type parameter.type) :=
    ⟨_, rfl, (reads_type parameter.type).map _⟩
  exact Record.reads (.cons name (.cons type .nil)) (by simp) rfl

/-! ### Markers -/

theorem readable_of_shows_string {depth : Nat} {value : String} {node : Node}
    (shows : node.Shows depth (.string value)) : node.readable = true := by
  cases shows
  rfl

theorem readable_of_shows_nullable {depth : Nat} {value : Option String} {node : Node}
    (shows : node.Shows depth (nullable value)) : node.readable = true := by
  cases value with
  | none =>
      cases shows
      rfl
  | some value => exact readable_of_shows_string shows

theorem splitMarker_kept (kind : MarkerKind) {depth : Nat} {written : List (String × Value)}
    {members : Members} (shows : Members.Show depth written members)
    (kept : ∀ member ∈ written, member.1 ≠ "kind" ∧
      ∀ depth node, Node.Shows depth member.2 node → node.readable = true) :
    splitMarker (some kind) members = .ok (kind, members) := by
  induction written generalizing members with
  | nil =>
      cases shows
      rfl
  | cons member written ih =>
      obtain ⟨⟨other, readable⟩, keptRest⟩ := List.forall_mem_cons.mp kept
      cases shows with
      | cons first others =>
          rw [splitMarker]
          simp only [other, if_false, readable _ _ first, if_true, ih others keptRest]

theorem reads_marker_of_kind {kind : MarkerKind} {name : String} {written : List (String × Value)}
    {marker : Marker} (named : ∀ stop, decodeKind (.string (some name) stop) = .ok kind)
    (kept : ∀ member ∈ written, member.1 ≠ "kind" ∧
      ∀ depth node, Node.Shows depth member.2 node → node.readable = true)
    (reads : Reads ((markerRecord kind).decode .kept) (.object written) marker) :
    Reads decodeMarker (.object (("kind", .string name) :: written)) marker := by
  intro depth node shows
  cases shows with
  | @object _ _ start _ shows =>
      cases shows with
      | @cons _ _ _ _ keyStop left _ members first others =>
          cases first with
          | @string _ _ stop =>
              have split : splitMarker none
                  (.cons (some "kind") keyStop left (.string (some name) stop) members) =
                    .ok (kind, members) := by
                rw [splitMarker]
                simp only [if_true, Option.isSome_none, Bool.false_eq_true, if_false, named,
                  splitMarker_kept kind others kept]
              have read := reads depth (.object start depth members) (.object others)
              simp only [decodeMarker, split, decodeKept, read]
              rfl

theorem reads_marker (marker : Marker) : Reads decodeMarker (encodeMarker marker) marker := by
  cases marker with
  | exported entryPoint =>
      have entry : ReadsMember (markerRecord .export).fields ("entry_point", nullable entryPoint)
          (.entryPoint entryPoint) :=
        ⟨_, rfl, (reads_nullable entryPoint).map _⟩
      refine reads_marker_of_kind (fun _ => rfl) ?_ (Record.reads (.cons entry .nil) (by simp) rfl)
      exact List.forall_mem_singleton.mpr ⟨by simp, fun _ _ => readable_of_shows_nullable⟩
  | imported hostModule entryPoint =>
      have host : ReadsMember (markerRecord .import).fields ("module", .string hostModule)
          (.hostModule hostModule) :=
        ⟨_, rfl, (reads_string hostModule).map _⟩
      have entry : ReadsMember (markerRecord .import).fields ("entry_point", nullable entryPoint)
          (.entryPoint entryPoint) :=
        ⟨_, rfl, (reads_nullable entryPoint).map _⟩
      refine reads_marker_of_kind (fun _ => rfl) ?_
        (Record.reads (.cons host (.cons entry .nil)) (by simp) rfl)
      refine List.forall_mem_cons.mpr ⟨⟨by simp, fun _ _ => readable_of_shows_string⟩, ?_⟩
      exact List.forall_mem_singleton.mpr ⟨by simp, fun _ _ => readable_of_shows_nullable⟩

/-! ### Methods, types and modules -/

theorem reads_method (method : MethodDef) : Reads decodeMethod (encodeMethod method) method := by
  have name : ReadsMember methodRecord.fields ("name", .string method.name) (.name method.name) :=
    ⟨_, rfl, (reads_string method.name).map _⟩
  have isStatic : ReadsMember methodRecord.fields ("is_static", .bool method.isStatic)
      (.isStatic method.isStatic) :=
    ⟨_, rfl, (reads_bool method.isStatic).map _⟩
  have parameters : ReadsMember methodRecord.fields
      ("parameters", .array (method.parameters.map encodeParameter)) (.parameters method.parameters) :=
    ⟨_, rfl, (reads_list encodeParameter reads_parameter method.parameters).map _⟩
  have returnType : ReadsMember methodRecord.fields ("return_type", encodeType method.returnType)
      (.returnType method.returnType) :=
    ⟨_, rfl, (reads_type method.returnType).map _⟩
  have markers : ReadsMember methodRecord.fields
      ("markers", .array (method.markers.map encodeMarker)) (.markers method.markers) :=
    ⟨_, rfl, (reads_list encodeMarker reads_marker method.markers).map _⟩
  exact Record.reads (.cons name (.cons isStatic (.cons parameters (.cons returnType
    (.cons markers .nil))))) (by simp) rfl

theorem reads_typeDef (type : TypeDef) : Reads decodeTypeDef (encodeTypeDef type) type := by
  have namespaceName : ReadsMember typeDefRecord.fields ("namespace", .string type.namespaceName)
      (.namespaceName type.namespaceName) :=
    ⟨_, rfl, (reads_string type.namespaceName).map _⟩
  have name : ReadsMember typeDefRecord.fields ("name", .string type.name) (.name type.name) :=
    ⟨_, rfl, (reads_string type.name).map _⟩
  have methods : ReadsMember typeDefRecord.fields ("methods", .array (type.methods.map encodeMethod))
      (.methods type.methods) :=
    ⟨_, rfl, (reads_list encodeMethod reads_method type.methods).map _⟩
  exact Record.reads (.cons namespaceName (.cons name (.cons methods .nil))) (by simp) rfl

theorem reads_module (module : Module) : Reads decodeModule (encodeModule module) module := by
  obtain ⟨name, file, references, types⟩ := module
  have readsName : ReadsMember moduleRecord.fields ("name", .string name) (.name name) :=
    ⟨_, rfl, (reads_string name).map _⟩
  have readsReferences : ReadsMember moduleRecord.fields
      ("references", .array (references.map .string)) (.references references) :=
    ⟨_, rfl, (reads_list .string reads_string references).map _⟩
  have readsTypes : ReadsMember moduleRecord.fields ("types", .array (types.map encodeTypeDef))
      (.types types) :=
    ⟨_, rfl, (reads_list encodeTypeDef reads_typeDef types).map _⟩
  cases file with
  | none =>
      change Reads _ (.object [("name", _), ("references", _), ("types", _)]) _
      exact Record.reads (.cons readsName (.cons readsReferences (.cons readsTypes .nil)))
        (by simp) rfl
  | some file =>
      have readsFile : ReadsMember moduleRecord.fields ("file_name", .string file)
          (.file (some file)) :=
        ⟨_, rfl, (reads_nullable (some file)).map _⟩
      change Reads _ (.object [("name", _), ("file_name", _), ("references", _), ("types", _)]) _
      exact Record.reads
        (.cons readsName (.cons readsFile (.cons readsReferences (.cons readsTypes .nil))))
        (by simp) rfl

end GuestGlue.Codec

/-- Every module is read back from its description. -/
theorem GuestGlue.Module.ofJson_toJson (module : Module) :
    Module.ofJson module.toJson = .ok module :=
  (Codec.reads_module module).decodeText_pretty
