import BuildFleet.Coordinator.Events
import BuildFleet.Proofs.Json.Exact
import BuildFleet.Proofs.Text.Lines
/-!
# How a stream is read (`read_create_events`)

No line means that the stream is incomplete (`Event.ofLine_ne_incomplete`), so a stream that is
incomplete is one whose lines have all been read, and reading goes on with what follows them
(`readLines_append`). A line that is blank is no event (`decode_of_isBlank`), so what a line means is
settled by what it decodes to.
-/
namespace BuildFleet

/-! ## Blank lines -/

theorem Text.ne_bracket_of_isBlank {s : String} (h : Text.isBlank s = true) {b : UInt8}
    (hb : b ∈ Utf8.encode s) : b ≠ 91 ∧ b ≠ 123 := by
  rw [Json.encode_eq_flatMap, List.mem_flatMap] at hb
  obtain ⟨c, hc, hb⟩ := hb
  have hblank : isBlankChar c = true := List.all_eq_true.1 h c hc
  by_cases hascii : 128 ≤ c.toNat
  · have hle := Json.le_of_mem_encodeChar hascii hb
    rw [UInt8.le_iff_toNat_le] at hle
    constructor
    · rintro rfl
      exact absurd hle (by decide)
    · rintro rfl
      exact absurd hle (by decide)
  · have key : ∀ n < 128, isBlankChar (Char.ofNat n) = true →
        ∀ b ∈ String.utf8EncodeChar (Char.ofNat n), b ≠ 91 ∧ b ≠ 123 := by decide +kernel
    have hn := key c.toNat (by omega)
    rw [Char.ofNat_toNat] at hn
    exact hn hblank b hb

namespace Json

/-- A record starts with a bracket or a brace. -/
theorem Record.decode_of_no_bracket {σ α : Type} (r : Record σ α) {text : List UInt8}
    (h : ∀ b ∈ text, b ≠ 91 ∧ b ≠ 123) (x : α) : decode r.read text ≠ .ok x := by
  have hread : ∀ y, r.read text ≠ .ok y := by
    intro y
    have hsub : ∀ b ∈ skipSpace text, b ≠ 91 ∧ b ≠ 123 :=
      fun b hb => h b (List.dropWhile_subset _ hb)
    unfold read
    split
    · exact nofun
    · rename_i rest heq
      rw [heq] at hsub
      exact absurd rfl (hsub 91 List.mem_cons_self).1
    · rename_i rest heq
      rw [heq] at hsub
      exact absurd rfl (hsub 123 List.mem_cons_self).2
    · exact wrongType_ne_ok _ _ y
  unfold decode
  cases hy : r.read text with
  | error fault => exact nofun
  | ok y => exact absurd hy (hread y)

end Json

namespace Coordinator

/-- A blank line does not decode to an event. -/
theorem decode_of_isBlank {line : List UInt8} {s : String} (hs : Utf8.decode? line = some s)
    (h : Text.isBlank s = true) (event : EventLine) :
    Json.decode EventLine.record.read line ≠ .ok event := by
  apply Json.Record.decode_of_no_bracket
  intro b hb
  rw [← Utf8.encode_of_decode? hs] at hb
  exact Text.ne_bracket_of_isBlank h hb

/-! ## Lines of a stream -/

/-- The bytes are one line of a stream: with a line feed, with a carriage return and a line feed, or
without an ending because nothing follows. -/
inductive IsLine (line : List UInt8) : List UInt8 → Prop where
  | ended (h : 10 ∉ line) (hr : line.getLast? ≠ some 13) : IsLine line (line ++ [10])
  | endedWithReturn (h : 10 ∉ line) : IsLine line (line ++ [13, 10])
  | unended (h : 10 ∉ line) (hne : line ≠ []) : IsLine line line

theorem IsLine.linesOf_eq {line bytes : List UInt8} (h : IsLine line bytes) :
    linesOf bytes = [line] := by
  unfold linesOf
  cases h with
  | ended h hr => rw [Lines.split_line h, Lines.withoutReturn_of_getLast? hr, Lines.split_nil]
  | endedWithReturn h =>
    have hline : 10 ∉ line ++ [13] := by
      rw [List.mem_append, not_or]
      exact ⟨h, by decide⟩
    have hbytes : line ++ [13, 10] = (line ++ [13]) ++ 10 :: [] := by simp
    rw [hbytes, Lines.split_line hline, Lines.withoutReturn_concat, Lines.split_nil]
  | unended h hne => exact Lines.split_unended h hne

/-- No line says that the stream is incomplete: only its end does. -/
theorem Event.ofLine_ne_incomplete {line : List UInt8} {result : Except Error String}
    (h : Event.ofLine line = .finished result) : result ≠ .error .incomplete := by
  rintro rfl
  unfold Event.ofLine at h
  split at h
  · cases h
  · split at h
    · cases h
    · split at h
      · cases h
      · unfold Event.ofEventLine at h
        split at h <;> cases h

/-- Lines that end a stream end it whatever follows; others report their statuses and hand over to
what follows. -/
theorem readLines_append (before after : List (List UInt8)) :
    ((readLines .incomplete before).2 ≠ .error .incomplete →
      readLines .incomplete (before ++ after) = readLines .incomplete before) ∧
    ((readLines .incomplete before).2 = .error .incomplete →
      readLines .incomplete (before ++ after) =
        ((readLines .incomplete before).1 ++ (readLines .incomplete after).1,
          (readLines .incomplete after).2)) := by
  induction before with
  | nil =>
    constructor
    · intro h
      exact absurd rfl h
    · intro _
      rfl
  | cons line before ih =>
    obtain ⟨hstop, hgo⟩ := ih
    rw [List.cons_append, readLines, readLines]
    cases hline : Event.ofLine line with
    | nothing => exact ⟨hstop, hgo⟩
    | waiting status =>
      constructor
      · intro h
        simp only [hstop h]
      · intro h
        simp only [hgo h, List.cons_append]
    | finished result =>
      constructor
      · intro _
        rfl
      · intro h
        exact absurd h (Event.ofLine_ne_incomplete hline)

theorem IsLine.readEvents_eq {line bytes : List UInt8} (h : IsLine line bytes) :
    readEvents bytes = match Event.ofLine line with
      | .nothing => ([], .error .incomplete)
      | .waiting status => ([status], .error .incomplete)
      | .finished result => ([], result) := by
  rw [readEvents, h.linesOf_eq, readLines]
  cases Event.ofLine line <;> rfl

/-- What an event means is its error, else its buildlet, else its status. -/
theorem IsLine.readEvents_of_decode {line bytes : List UInt8} (h : IsLine line bytes) {s : String}
    (hs : Utf8.decode? line = some s) {event : EventLine}
    (hevent : Json.decode EventLine.record.read line = .ok event) :
    readEvents bytes = match Event.ofEventLine event with
      | .nothing => ([], .error .incomplete)
      | .waiting status => ([status], .error .incomplete)
      | .finished result => ([], result) := by
  have hblank : ¬Text.isBlank s = true := fun hb => decode_of_isBlank hs hb event hevent
  have hline : Event.ofLine line = Event.ofEventLine event := by
    simp only [Event.ofLine, hs, if_neg hblank, hevent]
  rw [h.readEvents_eq, hline]

/-- **A stream is read line by line, up to the first line that ends it** (`read_create_events`).
Where the bytes before an ending of a line end the stream, nothing that follows changes what is
read. Otherwise the statuses of what follows come after theirs, and its result is the result. A line
that is not text ends the stream, a blank one says nothing, and one that does not decode ends it.
One that does ends it with its error where that is not empty, whatever else it holds, else with the
name of its buildlet and without a status; else it reports its status once, if it has one. -/
theorem stream_read_line_by_line (p q : List UInt8) (hp : p = [] ∨ ∃ start, p = start ++ [10]) :
    ((readEvents p).2 ≠ .error .incomplete → readEvents (p ++ q) = readEvents p) ∧
    ((readEvents p).2 = .error .incomplete →
      readEvents (p ++ q) = ((readEvents p).1 ++ (readEvents q).1, (readEvents q).2)) ∧
    ∀ line bytes, IsLine line bytes →
      (Utf8.decode? line = none →
        readEvents bytes = ([], .error (.http "stream did not contain valid UTF-8"))) ∧
      ∀ s, Utf8.decode? line = some s →
        (Text.isBlank s = true → readEvents bytes = ([], .error .incomplete)) ∧
        (∀ fault, Text.isBlank s = false → Json.decode EventLine.record.read line = .error fault →
          readEvents bytes = ([], .error (.decode (fault.message line)))) ∧
        ∀ event, Json.decode EventLine.record.read line = .ok event →
          (∀ error, event.error = some error → error ≠ "" →
            readEvents bytes = ([], .error (.reported error))) ∧
          (event.error = none ∨ event.error = some "" →
            (∀ name, event.buildlet = some name → readEvents bytes = ([], .ok name)) ∧
            (event.buildlet = none →
              readEvents bytes = (event.status.toList, .error .incomplete))) := by
  have hlines : linesOf (p ++ q) = linesOf p ++ linesOf q := Lines.split_append hp q
  obtain ⟨hstop, hgo⟩ := readLines_append (linesOf p) (linesOf q)
  rw [← hlines] at hstop hgo
  refine ⟨hstop, hgo, fun line bytes h => ⟨?_, fun s hs => ⟨?_, ?_, ?_⟩⟩⟩
  · intro hs
    rw [h.readEvents_eq, Event.ofLine, hs]
  · intro hblank
    simp only [h.readEvents_eq, Event.ofLine, hs, if_pos hblank]
  · intro fault hblank hfault
    have hne : ¬Text.isBlank s = true := by rw [hblank]; decide
    simp only [h.readEvents_eq, Event.ofLine, hs, if_neg hne, hfault]
  · intro event hevent
    rw [h.readEvents_of_decode hs hevent]
    obtain ⟨error, status, buildlet⟩ := event
    refine ⟨?_, ?_⟩
    · rintro error rfl hne
      have hsome : (some error).filter (· ≠ "") = some error := by simp [Option.filter, hne]
      simp only [Event.ofEventLine, hsome]
    · intro herror
      have hnone : error.filter (· ≠ "") = none := by
        rcases herror with rfl | rfl <;> rfl
      refine ⟨?_, ?_⟩
      · rintro name rfl
        simp only [Event.ofEventLine, hnone]
      · rintro rfl
        cases status <;> simp only [Event.ofEventLine, hnone] <;> rfl

def waitThenBuildlet : List UInt8 :=
  Utf8.encode "\x7b\"status\":\x7b\"ahead\":2\x7d\x7d\r\n\n\x7b\"buildlet\":\x7b\"name\":\"b\"\x7d\x7d\n"

/-- A line that holds everything an event can hold, with an error that is empty. -/
def fullLine : String :=
  "\x7b\"error\":\"\",\"status\":\x7b\"ahead\":1\x7d,\"buildlet\":\x7b\"name\":\"b\"\x7d\x7d"

theorem waitThenBuildlet_read :
    readEvents (waitThenBuildlet ++ [0xFF, 10, 0x7B]) = ([⟨2, ""⟩], .ok "b") ∧
      readEvents (Utf8.encode fullLine ++ [10]) = ([], .ok "b") := by
  constructor
  · have hread : readEvents waitThenBuildlet = ([⟨2, ""⟩], .ok "b") := by rfl
    have hp : waitThenBuildlet = [] ∨ ∃ start, waitThenBuildlet = start ++ [10] :=
      .inr ⟨waitThenBuildlet.dropLast, by rfl⟩
    have hne : (readEvents waitThenBuildlet).2 ≠ .error .incomplete := by
      rw [hread]
      exact nofun
    rw [(stream_read_line_by_line waitThenBuildlet [0xFF, 10, 0x7B] hp).1 hne, hread]
  · have hline : IsLine (Utf8.encode fullLine) (Utf8.encode fullLine ++ [10]) :=
      .ended (by decide) (by decide)
    have hevent : Json.decode EventLine.record.read (Utf8.encode fullLine) =
        .ok ⟨some "", some ⟨1, ""⟩, some "b"⟩ := by rfl
    have hmeaning := (stream_read_line_by_line [] [] (.inl rfl)).2.2 _ _ hline
    exact (((hmeaning.2 fullLine (Utf8.decode?_encode fullLine)).2.2 _ hevent).2 (.inr rfl)).1 "b" rfl

end Coordinator

end BuildFleet
