import BuildFleet.Proofs.Wire.Unknown
/-!
# Fields in any order

The fields of a message may come in any order, with fields of other tags among them (`Spread`). The
message is then put together field by field: with the fields of some tags it is a part of what was sent,
each field of its own adds one tag to these, and the others change nothing (`mergesAll_bytesOf`,
`Spread.mergesAll`).
-/
namespace BuildFleet.Wire

variable {μ : Type} {merge : Merge μ} {levels : Nat}

/-- The fields spread a message out: each of its own tags once and with what is written for it, in any
order, and well-formed fields of other tags wherever they may be. -/
structure Spread (levels : Nat) (own : List Nat) (Writes : Nat → List UInt8 → Prop)
    (fields : List (Nat × List UInt8)) : Prop where
  once : ((fields.map Prod.fst).filter (· ∈ own)).Perm own
  written : ∀ f ∈ fields, f.1 ∈ own → Writes f.1 f.2
  other : ∀ f ∈ fields, f.1 ∉ own → IsField levels f.1 f.2

/-- The message is put together field by field. What it is with the fields of some tags is its part; each
field of its own adds a tag to these, and the others change nothing. -/
theorem mergesAll_bytesOf {own : List Nat} {part : List Nat → μ} {fields : List (Nat × List UInt8)}
    (hown : ∀ f ∈ fields, f.1 ∈ own → ∀ done, f.1 ∉ done →
      MergesAll merge f.2 (part done) (part (done ++ [f.1])))
    (hother : ∀ f ∈ fields, f.1 ∉ own → ∀ m, Merges merge f.2 m m) (done : List Nat)
    (honce : (done ++ (fields.map Prod.fst).filter (· ∈ own)).Nodup) :
    MergesAll merge (bytesOf fields) (part done)
      (part (done ++ (fields.map Prod.fst).filter (· ∈ own))) := by
  induction fields generalizing done with
  | nil =>
    rw [List.map_nil, List.filter_nil, List.append_nil]
    exact .nil
  | cons f fields ih =>
    obtain ⟨hfield, hown⟩ := List.forall_mem_cons.1 hown
    obtain ⟨hskipped, hother⟩ := List.forall_mem_cons.1 hother
    rw [bytesOf_cons]
    by_cases hf : f.1 ∈ own
    · -- That its tag is not among those done is what keeps an instance from being merged twice.
      have htags : done ++ ((f :: fields).map Prod.fst).filter (· ∈ own) =
          (done ++ [f.1]) ++ (fields.map Prod.fst).filter (· ∈ own) := by
        simp [hf]
      have hnew : f.1 ∉ done := by
        rw [htags] at honce
        have hdone := (List.nodup_append.1 (List.nodup_append.1 honce).1).2.2
        exact fun hmem => hdone f.1 hmem f.1 (List.mem_singleton_self _) rfl
      rw [htags] at honce ⊢
      exact (hfield hf done hnew).append (ih hown hother (done ++ [f.1]) honce)
    · have htags : ((f :: fields).map Prod.fst).filter (· ∈ own) =
          (fields.map Prod.fst).filter (· ∈ own) := by
        simp [hf]
      rw [htags] at honce ⊢
      exact .cons (hskipped hf _) (ih hown hother done honce)

/-- However a message is spread out, it is what all of its fields make of the blank one. -/
theorem Spread.mergesAll {own : List Nat} {Writes : Nat → List UInt8 → Prop}
    {fields : List (Nat × List UInt8)} {part : List Nat → μ} {m : μ}
    (h : Spread levels own Writes fields) (hnodup : own.Nodup)
    (hown : ∀ f ∈ fields, Writes f.1 f.2 → ∀ done, f.1 ∉ done →
      MergesAll merge f.2 (part done) (part (done ++ [f.1])))
    (hother : ∀ tag, tag ∉ own → ∀ layout m bytes, merge tag layout m bytes = do
      return (m, ← skipField levels tag layout bytes))
    (hwhole : ∀ tags, tags.Perm own → part tags = m) :
    MergesAll merge (bytesOf fields) (part []) m := by
  have hparts : ∀ f ∈ fields, f.1 ∈ own → ∀ done, f.1 ∉ done →
      MergesAll merge f.2 (part done) (part (done ++ [f.1])) :=
    fun f hf hmem => hown f hf (h.written f hf hmem)
  have hskipped : ∀ f ∈ fields, f.1 ∉ own → ∀ m, Merges merge f.2 m m :=
    fun f hf hmem m => (h.other f hf hmem).merges (hother f.1 hmem · m ·)
  have hall := mergesAll_bytesOf hparts hskipped [] (h.once.symm.nodup hnodup)
  rw [List.nil_append, hwhole _ h.once] at hall
  exact hall

theorem length_le_bytesOf_of_mem {fields : List (Nat × List UInt8)} {f : Nat × List UInt8}
    (h : f ∈ fields) : f.2.length ≤ (bytesOf fields).length := by
  obtain ⟨before, after, rfl⟩ := List.append_of_mem h
  simp only [bytesOf, List.flatMap_append, List.flatMap_cons, List.length_append]
  omega

end BuildFleet.Wire
