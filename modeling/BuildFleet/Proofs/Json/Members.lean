import BuildFleet.Proofs.Json.Exact
/-!
# Reading lists and objects member by member

A table is read from the entries that its members are read as (`reads_table_iff`), and a record from the
state that its members fill (`Record.reads_iff`). What these are depends on the members alone and not on
the white space between them, so tables and records are exact where their parts are.
-/
namespace BuildFleet.Json

/-! ## Stepping through lists and objects -/

section
variable {isFirst : Bool} {separator pad v rest : List UInt8} {p : Pair} {key : String}

theorem nextElement_closed (hpad : IsPad pad) :
    nextElement isFirst (pad ++ 93 :: rest) = .ok (none, 93 :: rest) := by
  simp [nextElement, skipSpace_closing (b := 93) hpad rfl]

theorem nextElement_next (hseparator : Separates isFirst separator) (hv : IsValue v)
    (text : List UInt8) :
    nextElement isFirst (separator ++ (v ++ text)) = .ok (some (v ++ text), v ++ text) := by
  obtain ⟨b, v', rfl, hspace, hclose, -⟩ := hv.start
  cases hseparator with
  | first hpad => simp [nextElement, skipSpace_closing hpad hspace, hclose]
  | comma hbefore hafter =>
    simp [nextElement, skipSpace_closing (b := 44) hbefore rfl, skipSpace_closing hafter hspace, hclose]

theorem closeList_closed (hpad : IsPad pad) : closeList (pad ++ 93 :: rest) = .ok rest := by
  simp [closeList, skipSpace_closing (b := 93) hpad rfl]

theorem closeList_next (hseparator : Separates isFirst separator) (hv : IsValue v)
    (text y : List UInt8) : closeList (separator ++ (v ++ text)) ≠ .ok y := by
  obtain ⟨b, v', rfl, hspace, hclose, hcomma, -⟩ := hv.start
  cases hseparator with
  | first hpad =>
    simp [closeList, skipSpace_closing hpad hspace, hclose, hcomma, faultHere]
  | comma hbefore hafter =>
    simp [closeList, skipSpace_closing (b := 44) hbefore rfl, skipSpace_closing hafter hspace, hclose,
      faultHere]

theorem nextKey_closed (hpad : IsPad pad) :
    nextKey isFirst (pad ++ 125 :: rest) = .ok (none, 125 :: rest) := by
  simp [nextKey, skipSpace_closing (b := 125) hpad rfl]

theorem nextKey_quote (hseparator : Separates isFirst separator) (text : List UInt8) :
    nextKey isFirst (separator ++ 34 :: text) = .ok (some text, text) := by
  cases hseparator with
  | first hpad => simp [nextKey, skipSpace_closing (b := 34) hpad rfl]
  | comma hbefore hafter =>
    simp [nextKey, skipSpace_closing (b := 44) hbefore rfl, skipSpace_closing (b := 34) hafter rfl]

theorem colon_pad (hpad : IsPad pad) (text : List UInt8) : colon (pad ++ 58 :: text) = .ok text := by
  simp [colon, skipSpace_closing (b := 58) hpad rfl]

/-- The key is read for the member. -/
def Pair.Names (p : Pair) (key : String) : Prop :=
  ∀ rest, textAfterQuote (p.literal ++ 34 :: rest) = .ok (key, rest)

theorem Pair.HasKey.names (h : p.HasKey key) : p.Names key := textAfterQuote_spelled h

theorem Pair.Names.unique {key' : String} (h : p.Names key) (h' : p.Names key') : key = key' := by
  have hboth := (h []).symm.trans (h' [])
  exact (Prod.mk.inj (Except.ok.inj hboth)).1

end

/-! ## Tables -/

section
variable {α : Type} {item : Reader α} {isFirst : Bool} {ps : List Pair} {text rest : List UInt8}
  {t : Table α}

/-- The entries that the members of an object are read as, one by one. -/
def EntriesOf (item : Reader α) : List Pair → List (String × α) → Prop :=
  List.Forall₂ fun p e => p.Names e.1 ∧ Reads item p.value e.2

/-- The entries put into a table, one after another. -/
def insertAll (t : Table α) (es : List (String × α)) : Table α :=
  es.foldl (fun t e => t.insert e.1 e.2) t

theorem tableEntries_closed {pad : List UInt8} (hpad : IsPad pad) (bound : Nat) :
    tableEntries item (bound + 1) isFirst t (pad ++ 125 :: rest) = .ok (t, rest) := by
  simp only [tableEntries, nextKey_closed hpad]
  rfl

theorem tableEntries_next {separator piece : List UInt8} {p : Pair} {key : String} {x : α}
    (hitem : Exact item) (hseparator : Separates isFirst separator) (hp : p.Written piece)
    (hkey : p.Names key) (hx : Reads item p.value x) (hrest : Delimited rest) (bound : Nat) :
    tableEntries item (bound + 1) isFirst t (separator ++ (piece ++ rest)) =
      tableEntries item bound false (t.insert key x) rest := by
  obtain ⟨middle, gap, hmiddle, hgap, rfl⟩ := hp
  simp only [List.append_assoc, List.cons_append, tableEntries, nextKey_quote hseparator]
  simp only [bind, Except.bind, hkey _, colon_pad hmiddle, hitem.skip _ _ hgap, hx rest hrest]

/-- An entry that is read has a key, and its value is read. -/
theorem names_and_reads_of_tableEntries {separator piece : List UInt8} {p : Pair}
    (hitem : Exact item) (hseparator : Separates isFirst separator) (hp : p.Written piece)
    (hliteral : IsLiteral p.literal) (hvalue : IsValue p.value) (hrest : Delimited rest) {bound : Nat}
    {y : Table α × List UInt8}
    (h : tableEntries item (bound + 1) isFirst t (separator ++ (piece ++ rest)) = .ok y) :
    ∃ key x, p.Names key ∧ Reads item p.value x := by
  obtain ⟨middle, gap, hmiddle, hgap, rfl⟩ := hp
  simp only [List.append_assoc, List.cons_append, tableEntries, nextKey_quote hseparator] at h
  simp only [bind, Except.bind] at h
  split at h
  · cases h
  rename_i z hz
  obtain ⟨key, rfl, hkey⟩ := textAfterQuote_exact hliteral hz
  simp only [colon_pad hmiddle, hitem.skip _ _ hgap] at h
  split at h
  · cases h
  rename_i z' hz'
  obtain ⟨x, -, hx⟩ := hitem.reads p.value hvalue rest hrest z' hz'
  exact ⟨key, x, hkey, hx⟩

theorem tableEntries_of_entriesOf (hitem : Exact item)
    (h : Sequence 125 Pair.Written isFirst ps text) {es : List (String × α)}
    (hes : EntriesOf item ps es) {bound : Nat} (hbound : ps.length < bound) (rest : List UInt8) :
    tableEntries item bound isFirst t (text ++ rest) = .ok (insertAll t es, rest) := by
  induction h generalizing bound t es with
  | closed hpad =>
    obtain ⟨bound, rfl⟩ := Nat.exists_eq_succ_of_ne_zero (Nat.ne_zero_of_lt hbound)
    cases hes
    rw [List.append_assoc]
    exact tableEntries_closed hpad bound
  | @next isFirst separator p piece ps text hseparator hp htext ih =>
    obtain ⟨bound, rfl⟩ := Nat.exists_eq_succ_of_ne_zero (Nat.ne_zero_of_lt hbound)
    cases hes with
    | cons he hes =>
      rw [List.append_assoc, List.append_assoc, tableEntries_next hitem hseparator hp he.1 he.2
        (htext.delimited (.inr rfl) rest)]
      exact ih hes (by simpa using hbound)

theorem entriesOf_of_tableEntries (hitem : Exact item)
    (h : Sequence 125 Pair.Written isFirst ps text) (hkeys : ∀ p ∈ ps, IsLiteral p.literal)
    (hvalues : ∀ p ∈ ps, IsValue p.value) {bound : Nat} {y : Table α × List UInt8}
    (hy : tableEntries item bound isFirst t (text ++ rest) = .ok y) :
    ∃ es, EntriesOf item ps es := by
  induction h generalizing bound t with
  | closed _ => exact ⟨[], .nil⟩
  | @next isFirst separator p piece ps text hseparator hp htext ih =>
    obtain ⟨hkey, hkeys⟩ := List.forall_mem_cons.1 hkeys
    obtain ⟨hvalue, hvalues⟩ := List.forall_mem_cons.1 hvalues
    have hrest := htext.delimited (.inr rfl) rest
    cases bound with
    | zero => cases hy
    | succ bound =>
      rw [List.append_assoc, List.append_assoc] at hy
      obtain ⟨key, x, hkey, hx⟩ :=
        names_and_reads_of_tableEntries hitem hseparator hp hkey hvalue hrest hy
      rw [tableEntries_next hitem hseparator hp hkey hx hrest] at hy
      obtain ⟨es, hes⟩ := ih hkeys hvalues hy
      exact ⟨(key, x) :: es, .cons ⟨hkey, hx⟩ hes⟩

theorem Pair.Written.ne_nil {p : Pair} {piece : List UInt8} (h : p.Written piece) : piece ≠ [] := by
  obtain ⟨_, _, _, _, rfl⟩ := h
  exact List.cons_ne_nil _ _

/-- A table is read from the entries that its members are read as. -/
theorem reads_table_iff (hitem : Exact item) {v : List UInt8} (hv : IsObject ps v) {t : Table α} :
    Reads (table item) v t ↔ ∃ es, EntriesOf item ps es ∧ insertAll .empty es = t := by
  obtain ⟨⟨text, rfl, htext⟩, hkeys, hvalues⟩ := hv
  have hbound (rest : List UInt8) : ps.length < (text ++ rest).length + 1 := by
    have hlength := htext.length_lt fun _ _ hp => hp.ne_nil
    rw [List.length_append]
    omega
  have htable (rest : List UInt8) : table item (123 :: text ++ rest) =
      tableEntries item ((text ++ rest).length + 1) true .empty (text ++ rest) := rfl
  constructor
  · intro h
    have hread := h [] delimited_nil
    rw [htable] at hread
    obtain ⟨es, hes⟩ := entriesOf_of_tableEntries hitem htext hkeys hvalues hread
    rw [tableEntries_of_entriesOf hitem htext hes (hbound [])] at hread
    exact ⟨es, hes, (Prod.mk.inj (Except.ok.inj hread)).1⟩
  · rintro ⟨es, hes, rfl⟩ rest -
    rw [htable, tableEntries_of_entriesOf hitem htext hes (hbound rest)]

theorem exact_table (hitem : Exact item) : Exact (table item) where
  skip pad bytes h := by
    unfold table
    rw [skipSpace_pad h]
  reads v hv rest hrest y hy := by
    obtain ⟨b, v, rfl, hspace, -⟩ := id hv.start
    by_cases hb : b = 123
    · subst hb
      obtain ⟨ps, hps⟩ := hv.of_brace
      obtain ⟨text, htext, hwritten⟩ := hps.written
      obtain rfl := (List.cons.inj htext).2
      obtain ⟨es, hes⟩ := entriesOf_of_tableEntries hitem hwritten hps.keys hps.values
        (show tableEntries item _ true .empty (v ++ rest) = .ok y from hy)
      have hreads := (reads_table_iff hitem hps).2 ⟨es, hes, rfl⟩
      exact ⟨_, Except.ok.inj (hy.symm.trans (hreads rest hrest)), hreads⟩
    · unfold table at hy
      rw [hv.skipSpace_eq, List.cons_append] at hy
      split at hy
      · rename_i heq
        exact absurd (List.cons.inj heq).1 hb
      · exact absurd hy (wrongType_ne_ok _ _ _)

end

/-! ## Records -/

namespace Record

/-- The members of an object, one after another, fill the record from one state to another: members that
it does not know leave it as it is, and one that it knows is read for the first time. -/
inductive Fills {σ α : Type} (r : Record σ α) : σ → List Pair → σ → Prop where
  | done (s) : Fills r s [] s
  | unknown {s s' p ps key} (hkey : p.Names key) (hm : r.members.find? (·.key == key) = none)
    (h : Fills r s ps s') : Fills r s (p :: ps) s'
  | known {s s' p ps key m set} (hkey : p.Names key) (hm : r.members.find? (·.key == key) = some m)
    (hset : m.isSet s = false) (hread : Reads m.read p.value set) (h : Fills r (set s) ps s') :
    Fills r s (p :: ps) s'

section
variable {σ α : Type} {r : Record σ α} {s s' : σ} {isFirst : Bool} {ps : List Pair}
  {separator piece text rest : List UInt8} {p : Pair} {key : String} {m : Member σ} {set : σ → σ}
  {bound : Nat}

theorem fromObject_closed {pad : List UInt8} (hpad : IsPad pad) (hmissing : r.missing s = none) :
    r.fromObject (bound + 1) isFirst s (pad ++ 125 :: rest) = .ok (r.build s, rest) := by
  simp only [fromObject, nextKey_closed hpad, bind, Except.bind, hmissing]
  rfl

theorem missing_of_fromObject_closed {pad : List UInt8} {y : α × List UInt8} (hpad : IsPad pad)
    (h : r.fromObject (bound + 1) isFirst s (pad ++ 125 :: rest) = .ok y) : r.missing s = none := by
  simp only [fromObject, nextKey_closed hpad, bind, Except.bind] at h
  split at h
  · unfold refuse at h
    split at h <;> cases h
  · assumption

theorem fromObject_unknown (hseparator : Separates isFirst separator) (hp : p.Written piece)
    (hkey : p.Names key) (hm : r.members.find? (·.key == key) = none) (hvalue : IsValue p.value)
    (hrest : Delimited rest) :
    r.fromObject (bound + 1) isFirst s (separator ++ (piece ++ rest)) =
      r.fromObject bound false s rest := by
  obtain ⟨middle, gap, hmiddle, hgap, rfl⟩ := hp
  simp only [List.append_assoc, List.cons_append, fromObject, nextKey_quote hseparator]
  simp only [bind, Except.bind, hkey _, hm, colon_pad hmiddle, skipValue_value hvalue hrest hgap]

theorem fromObject_known (hr : ∀ m ∈ r.members, Exact m.read) (hseparator : Separates isFirst separator)
    (hp : p.Written piece) (hkey : p.Names key) (hm : r.members.find? (·.key == key) = some m)
    (hset : m.isSet s = false) (hread : Reads m.read p.value set) (hrest : Delimited rest) :
    r.fromObject (bound + 1) isFirst s (separator ++ (piece ++ rest)) =
      r.fromObject bound false (set s) rest := by
  obtain ⟨middle, gap, hmiddle, hgap, rfl⟩ := hp
  have hskip := (hr m (List.mem_of_find?_eq_some hm)).skip gap (p.value ++ rest) hgap
  simp only [List.append_assoc, List.cons_append, fromObject, nextKey_quote hseparator]
  simp [bind, Except.bind, hkey _, hm, hset, colon_pad hmiddle, hskip, hread rest hrest]

/-- A member that is gone through is either unknown or read for the first time. -/
theorem known_or_unknown_of_fromObject (hr : ∀ m ∈ r.members, Exact m.read)
    (hseparator : Separates isFirst separator) (hp : p.Written piece) (hliteral : IsLiteral p.literal)
    (hvalue : IsValue p.value) (hrest : Delimited rest) {y : α × List UInt8}
    (h : r.fromObject (bound + 1) isFirst s (separator ++ (piece ++ rest)) = .ok y) :
    ∃ key, p.Names key ∧ (r.members.find? (·.key == key) = none ∨
      ∃ m set, r.members.find? (·.key == key) = some m ∧ m.isSet s = false ∧
        Reads m.read p.value set) := by
  obtain ⟨middle, gap, hmiddle, hgap, rfl⟩ := hp
  simp only [List.append_assoc, List.cons_append, fromObject, nextKey_quote hseparator] at h
  simp only [bind, Except.bind] at h
  split at h
  · cases h
  rename_i z hz
  obtain ⟨key, rfl, hkey⟩ := textAfterQuote_exact hliteral hz
  refine ⟨key, hkey, ?_⟩
  dsimp only at h
  cases hm : r.members.find? (·.key == key) with
  | none => exact .inl rfl
  | some m =>
    have hexact := hr m (List.mem_of_find?_eq_some hm)
    simp only [hm] at h
    cases hset : m.isSet s with
    | true =>
      simp only [hset, if_true, refuse] at h
      split at h <;> cases h
    | false =>
      simp only [hset, Bool.false_eq_true, if_false, colon_pad hmiddle, hexact.skip _ _ hgap] at h
      split at h
      · cases h
      rename_i z' hz'
      obtain ⟨set, -, hread⟩ := hexact.reads p.value hvalue rest hrest z' hz'
      exact .inr ⟨m, set, rfl, hset, hread⟩

/-- A record that its members fill is read as what they fill it to. -/
theorem fromObject_of_fills (hr : ∀ m ∈ r.members, Exact m.read)
    (h : Sequence 125 Pair.Written isFirst ps text) (hvalues : ∀ p ∈ ps, IsValue p.value)
    (hfills : Fills r s ps s') (hmissing : r.missing s' = none) (hbound : ps.length < bound)
    (rest : List UInt8) :
    r.fromObject bound isFirst s (text ++ rest) = .ok (r.build s', rest) := by
  induction h generalizing bound s with
  | closed hpad =>
    obtain ⟨bound, rfl⟩ := Nat.exists_eq_succ_of_ne_zero (Nat.ne_zero_of_lt hbound)
    cases hfills
    rw [List.append_assoc]
    exact fromObject_closed hpad hmissing
  | @next isFirst separator p piece ps text hseparator hp htext ih =>
    obtain ⟨bound, rfl⟩ := Nat.exists_eq_succ_of_ne_zero (Nat.ne_zero_of_lt hbound)
    obtain ⟨hvalue, hvalues⟩ := List.forall_mem_cons.1 hvalues
    have hrest := htext.delimited (.inr rfl) rest
    have hbound : ps.length < bound := by simpa using hbound
    rw [List.append_assoc, List.append_assoc]
    cases hfills with
    | unknown hkey hm hfills =>
      rw [fromObject_unknown hseparator hp hkey hm hvalue hrest]
      exact ih hvalues hfills hbound
    | known hkey hm hset hread hfills =>
      rw [fromObject_known hr hseparator hp hkey hm hset hread hrest]
      exact ih hvalues hfills hbound

theorem fills_of_fromObject (hr : ∀ m ∈ r.members, Exact m.read)
    (h : Sequence 125 Pair.Written isFirst ps text) (hkeys : ∀ p ∈ ps, IsLiteral p.literal)
    (hvalues : ∀ p ∈ ps, IsValue p.value) {y : α × List UInt8}
    (hy : r.fromObject bound isFirst s (text ++ rest) = .ok y) :
    ∃ s', Fills r s ps s' ∧ r.missing s' = none := by
  induction h generalizing bound s with
  | closed hpad =>
    cases bound with
    | zero => cases hy
    | succ bound =>
      rw [List.append_assoc] at hy
      exact ⟨s, .done s, missing_of_fromObject_closed hpad hy⟩
  | @next isFirst separator p piece ps text hseparator hp htext ih =>
    obtain ⟨hkey, hkeys⟩ := List.forall_mem_cons.1 hkeys
    obtain ⟨hvalue, hvalues⟩ := List.forall_mem_cons.1 hvalues
    have hrest := htext.delimited (.inr rfl) rest
    cases bound with
    | zero => cases hy
    | succ bound =>
      rw [List.append_assoc, List.append_assoc] at hy
      obtain ⟨key, hnames, hunknown | ⟨m, set, hm, hset, hread⟩⟩ :=
        known_or_unknown_of_fromObject hr hseparator hp hkey hvalue hrest hy
      · rw [fromObject_unknown hseparator hp hnames hunknown hvalue hrest] at hy
        obtain ⟨s', hfills, hmissing⟩ := ih hkeys hvalues hy
        exact ⟨s', .unknown hnames hunknown hfills, hmissing⟩
      · rw [fromObject_known hr hseparator hp hnames hm hset hread hrest] at hy
        obtain ⟨s', hfills, hmissing⟩ := ih hkeys hvalues hy
        exact ⟨s', .known hnames hm hset hread hfills, hmissing⟩

/-- A record is read from an object as what its members fill it to. -/
theorem reads_iff (hr : ∀ m ∈ r.members, Exact m.read) {v : List UInt8} (hv : IsObject ps v) {x : α} :
    Reads r.read v x ↔ ∃ s', Fills r r.blank ps s' ∧ r.missing s' = none ∧ r.build s' = x := by
  obtain ⟨⟨text, rfl, htext⟩, hkeys, hvalues⟩ := hv
  have hbound (rest : List UInt8) : ps.length < (text ++ rest).length + 1 := by
    have hlength := htext.length_lt fun _ _ hp => hp.ne_nil
    rw [List.length_append]
    omega
  have hread (rest : List UInt8) : r.read (123 :: text ++ rest) =
      r.fromObject ((text ++ rest).length + 1) true r.blank (text ++ rest) := rfl
  constructor
  · intro h
    have hx := h [] delimited_nil
    rw [hread] at hx
    obtain ⟨s', hfills, hmissing⟩ := fills_of_fromObject hr htext hkeys hvalues hx
    rw [fromObject_of_fills hr htext hvalues hfills hmissing (hbound [])] at hx
    exact ⟨s', hfills, hmissing, (Prod.mk.inj (Except.ok.inj hx)).1⟩
  · rintro ⟨s', hfills, hmissing, rfl⟩ rest -
    rw [hread, fromObject_of_fills hr htext hvalues hfills hmissing (hbound rest)]

section
variable {ms : List (Member σ)} {taken : Nat} {pad v : List UInt8}

theorem fromList_nil_closed (hpad : IsPad pad) :
    r.fromList taken s [] (pad ++ 93 :: rest) = .ok (r.build s, rest) := by
  rw [fromList, closeList_closed hpad]
  rfl

theorem fromList_nil_next (hseparator : Separates isFirst separator) (hv : IsValue v)
    (text : List UInt8) (y : α × List UInt8) :
    r.fromList taken s [] (separator ++ (v ++ text)) ≠ .ok y := by
  rw [fromList]
  intro h
  cases hclose : closeList (separator ++ (v ++ text)) with
  | ok rest => exact closeList_next hseparator hv _ _ hclose
  | error fault =>
    rw [hclose] at h
    cases h

/-- A member that a list is too short for may only be one that need not be there. -/
theorem fromList_closed (hpad : IsPad pad) :
    r.fromList taken s (m :: ms) (pad ++ 93 :: rest) =
      if m.isRequired then refuse 93 (.wrongLength taken r.kindOfList) (93 :: rest)
      else r.fromList (taken + 1) s ms (93 :: rest) := by
  rw [fromList, nextElement_closed hpad]
  rfl

theorem fromList_next (hseparator : Separates (taken == 0) separator) (hv : IsValue v)
    (text : List UInt8) :
    r.fromList taken s (m :: ms) (separator ++ (v ++ text)) =
      m.read (v ++ text) >>= fun z => r.fromList (taken + 1) (z.1 s) ms z.2 := by
  rw [fromList, nextElement_next hseparator hv]
  rfl

end

/-- What a record is read as from a list depends on the elements alone. -/
theorem fromList_exact {ms : List (Member σ)} (hms : ∀ m ∈ ms, Exact m.read) {taken : Nat}
    {vs : List (List UInt8)} (h : Sequence 93 Eq (taken == 0) vs text) (hvs : ∀ v ∈ vs, IsValue v)
    {y : α × List UInt8} (hy : r.fromList taken s ms (text ++ rest) = .ok y) :
    ∃ x, y = (x, rest) ∧ ∀ rest', r.fromList taken s ms (text ++ rest') = .ok (x, rest') := by
  -- On the members and not on the elements, as the list may be closed while members are left.
  induction ms generalizing taken s vs text with
  | nil =>
    cases h with
    | closed hpad =>
      rw [List.append_assoc, List.singleton_append, fromList_nil_closed hpad] at hy
      cases hy
      refine ⟨_, rfl, fun rest' => ?_⟩
      rw [List.append_assoc, List.singleton_append, fromList_nil_closed hpad]
    | next hseparator hv _ =>
      subst hv
      rw [List.append_assoc, List.append_assoc] at hy
      exact absurd hy (fromList_nil_next hseparator (List.forall_mem_cons.1 hvs).1 _ _)
  | cons m ms ih =>
    obtain ⟨hm, hms⟩ := List.forall_mem_cons.1 hms
    cases h with
    | closed hpad =>
      rw [List.append_assoc, List.singleton_append, fromList_closed hpad] at hy
      cases hrequired : m.isRequired with
      | true =>
        rw [if_pos hrequired] at hy
        cases hy
      | false =>
        have hoptional : ¬m.isRequired = true := by simp [hrequired]
        rw [if_neg hoptional] at hy
        obtain ⟨x, rfl, hx⟩ := ih hms (.closed isPad_nil) hvs hy
        refine ⟨x, rfl, fun rest' => ?_⟩
        rw [List.append_assoc, List.singleton_append, fromList_closed hpad, if_neg hoptional]
        exact hx rest'
    | @next _ _ v _ vs text hseparator hv htext =>
      subst hv
      obtain ⟨hvalue, hvs⟩ := List.forall_mem_cons.1 hvs
      have hrest (rest : List UInt8) : Delimited (text ++ rest) := htext.delimited (.inl rfl) rest
      rw [List.append_assoc, List.append_assoc, fromList_next hseparator hvalue] at hy
      cases hz : m.read (v ++ (text ++ rest)) with
      | error fault =>
        rw [hz] at hy
        cases hy
      | ok z =>
        obtain ⟨set, rfl, hset⟩ := hm.reads v hvalue _ (hrest rest) z hz
        rw [hz] at hy
        have hlater : Sequence 93 Eq (taken + 1 == 0) vs text := htext
        obtain ⟨x, rfl, hx⟩ := ih hms hlater hvs hy
        refine ⟨x, rfl, fun rest' => ?_⟩
        rw [List.append_assoc, List.append_assoc, fromList_next hseparator hvalue,
          hset _ (hrest rest')]
        exact hx rest'

theorem exact_read (hr : ∀ m ∈ r.members, Exact m.read) : Exact r.read where
  skip pad bytes h := by
    unfold read
    rw [skipSpace_pad h]
  reads v hv rest hrest y hy := by
    obtain ⟨b, v, rfl, hspace, -⟩ := id hv.start
    have hread : r.read (b :: v ++ rest) = .ok y := hy
    by_cases hbrace : b = 123
    · subst hbrace
      obtain ⟨ps, hps⟩ := hv.of_brace
      obtain ⟨text, htext, hwritten⟩ := hps.written
      obtain rfl := (List.cons.inj htext).2
      obtain ⟨s', hfills, hmissing⟩ := fills_of_fromObject hr hwritten hps.keys hps.values
        (show r.fromObject _ true r.blank (v ++ rest) = .ok y from hy)
      have hreads := (reads_iff hr hps).2 ⟨s', hfills, hmissing, rfl⟩
      exact ⟨_, Except.ok.inj (hy.symm.trans (hreads rest hrest)), hreads⟩
    by_cases hbracket : b = 91
    · subst hbracket
      obtain ⟨vs, hvs, hvalues⟩ := hv.of_bracket
      have hfirst : Sequence 93 Eq ((0 : Nat) == 0) vs v := hvs
      obtain ⟨x, rfl, hx⟩ := fromList_exact hr hfirst hvalues
        (show r.fromList 0 r.blank r.members (v ++ rest) = .ok y from hy)
      exact ⟨x, rfl, fun rest' _ => hx rest'⟩
    · unfold read at hread
      rw [hv.skipSpace_eq, List.cons_append] at hread
      split at hread
      · cases hread
      · rename_i heq
        exact absurd (List.cons.inj heq).1 hbracket
      · rename_i heq
        exact absurd (List.cons.inj heq).1 hbrace
      · exact absurd hread (wrongType_ne_ok _ _ _)

end

end Record

end BuildFleet.Json
