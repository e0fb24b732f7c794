import BuildFleet.Document
import BuildFleet.Proofs.Json.Escaped
import BuildFleet.Proofs.Json.Printed
/-!
# Documents of groups

A group is read from its document as it was, whatever its name and its instances are
(`ofDocument_document`). The document is a text with one line for the name and one for each instance
(`document_eq_encode`).
-/
namespace BuildFleet.Group

open Json

variable (g : Group) (bound : Nat) (rest : List UInt8)

theorem prettyList_text (depth : Nat) (texts : List String) :
    Value.prettyList depth (texts.map .text) = texts.map quote := by
  induction texts with
  | nil => rfl
  | cons s texts ih => simp [Value.prettyList, Value.pretty, ih]

theorem document_eq : g.document =
    123 :: (lineAt 1 ++ (quote "name" ++ 58 :: 32 :: (quote g.name ++
      (44 :: (lineAt 1 ++ (quote "instances" ++ 58 :: 32 ::
        ((91 :: prettyItems 1 (g.instances.map quote) ++ [93]) ++ (lineAt 0 ++ [125])))))))) := by
  simp [document, toJson, Value.pretty, Value.prettyMembers, prettyItems_cons, prettyList_text]

theorem fromObject_name :
    record.fromObject (bound + 1) true record.blank
        (lineAt 1 ++ (quote "name" ++ 58 :: 32 :: (quote g.name ++ rest))) =
      record.fromObject bound false ⟨some g.name, none⟩ rest := by
  have hread : record.members[0].read (32 :: (quote g.name ++ rest)) =
      .ok (fun d => { d with name := some g.name }, rest) := by
    show (text (32 :: (quote g.name ++ rest)) >>= _) = _
    rw [text_space, text_quote]
    rfl
  have hmember := Record.fromObject_member record record.blank bound
    (Record.nextKey_first 1 "name" _) rfl rfl hread
  exact hmember

theorem fromObject_instances :
    record.fromObject (bound + 1) false ⟨some g.name, none⟩
        (44 :: (lineAt 1 ++ (quote "instances" ++ 58 :: 32 ::
          ((91 :: prettyItems 1 (g.instances.map quote) ++ [93]) ++ rest)))) =
      record.fromObject bound false ⟨some g.name, some g.instances⟩ rest := by
  have hread : record.members[1].read
      (32 :: (91 :: prettyItems 1 (g.instances.map quote) ++ [93] ++ rest)) =
      .ok (fun d => { d with instances := some g.instances }, rest) := by
    show (list text (32 :: (91 :: prettyItems 1 (g.instances.map quote) ++ [93] ++ rest)) >>= _) = _
    rw [list_space, List.append_assoc, List.singleton_append, list_prettyItems readable_quote]
    rfl
  have hmember := Record.fromObject_member record ⟨some g.name, none⟩ bound
    (Record.nextKey_next 1 "instances" _) rfl rfl hread
  exact hmember

theorem read_document : record.read g.document = .ok (g, []) := by
  rw [document_eq]
  show record.fromObject _ true record.blank _ = _
  generalize hbound : List.length _ = bound
  obtain ⟨bound, rfl⟩ : ∃ n, bound = n + 2 := ⟨bound - 2, by simp at hbound; omega⟩
  rw [fromObject_name, fromObject_instances]
  exact Record.fromObject_end false bound rfl []

theorem ofDocument_document : ofDocument g.document = .ok g := by
  simp only [ofDocument, decode, read_document]
  rfl

/-! ## The text of a document -/

def instancesLayout : List String → String
  | [] => "[]"
  | texts => "[\n    " ++ String.intercalate ",\n    " (texts.map quoted) ++ "\n  ]"

/-- The text of a group's document. -/
def layout : String :=
  "\x7b\n  \"name\": " ++ quoted g.name ++ ",\n  \"instances\": " ++ instancesLayout g.instances ++
    "\n\x7d"

theorem encode_intercalate (separator text : String) (texts : List String) :
    Utf8.encode (separator.intercalate (text :: texts)) =
      Utf8.encode text ++ texts.flatMap fun t => Utf8.encode separator ++ Utf8.encode t := by
  induction texts generalizing text with
  | nil => simp
  | cons next texts ih =>
    rw [String.intercalate_cons_cons, Utf8.encode_append, Utf8.encode_append, ih]
    simp

theorem encode_instancesLayout (texts : List String) :
    Utf8.encode (instancesLayout texts) = 91 :: prettyItems 1 (texts.map quote) ++ [93] := by
  cases texts with
  | nil => rfl
  | cons text texts =>
    have hopen : Utf8.encode "[\n    " = 91 :: lineAt 2 := rfl
    have hcomma : Utf8.encode ",\n    " = 44 :: lineAt 2 := rfl
    have hclose : Utf8.encode "\n  ]" = lineAt 1 ++ [93] := rfl
    simp only [instancesLayout, Utf8.encode_append, List.map_cons, encode_intercalate, hopen, hcomma,
      hclose, prettyItems_cons, quote_eq_encode, List.flatMap_map]
    simp

theorem document_eq_encode : g.document = Utf8.encode g.layout := by
  have hname : Utf8.encode "\x7b\n  \"name\": " = 123 :: (lineAt 1 ++ (quote "name" ++ [58, 32])) := rfl
  have hinstances : Utf8.encode ",\n  \"instances\": " =
      44 :: (lineAt 1 ++ (quote "instances" ++ [58, 32])) := rfl
  have hclose : Utf8.encode "\n\x7d" = lineAt 0 ++ [125] := rfl
  rw [document_eq]
  -- `unfold` would derive an equation for the definition first, which takes Lean seconds.
  delta layout
  simp only [Utf8.encode_append, encode_instancesLayout, hname, hinstances, hclose, ← quote_eq_encode]
  simp

/-- Whatever the name and the instances of a group are, its document (`Group`) is its text, in which
it is laid out line by line, and the group that is read from that is the same group. -/
theorem document_reads_back (g : Group) :
    g.document = Utf8.encode g.layout ∧ ofDocument g.document = .ok g :=
  ⟨g.document_eq_encode, g.ofDocument_document⟩

end BuildFleet.Group
