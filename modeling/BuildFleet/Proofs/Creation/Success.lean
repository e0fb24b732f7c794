import BuildFleet.Proofs.Creation.Commit
import Mathlib.Data.List.Nodup
/-!
# What success means (`create`)

A creation returns at once where it is refused, and at the end of some run of its tasks otherwise
(`Returns`). It returns success just where nothing has gone wrong anywhere: the request is sound, there
is a directory for the setup, every task was given an instance and set it up, and storing went well.
Then every task has asked once for what was wanted, and the instances are those that were completed,
in whichever order.
-/
namespace BuildFleet.Creation

/-- A creation may take these steps, with these events, and return this result. -/
inductive Returns (o : Options) (makeDir : Except IoError String) (group : Option Group) :
    List Action → List Event → Except Error Outcome → Prop where
  | refused {e} (hp : prepare o makeDir = .error e) : Returns o makeDir group [] [] (.error e)
  | ran {c actions s result} (console : Console) (hp : prepare o makeDir = .ok c)
    (h : (State.initial c group console).run c actions = some s)
    (hr : s.closing = .returned result) : Returns o makeDir group actions s.events result

/-- The requests that were made: which task asked, and for which builder type. -/
def requests (events : List Event) : List (Nat × String) :=
  events.filterMap fun
    | .requested index builderType => some (index, builderType)
    | _ => none

/-! ## Before the run -/

section
variable {o : Options} {makeDir : Except IoError String} {c : Context}

/-- When a creation begins at all. -/
theorem exists_prepare_iff : (∃ c, prepare o makeDir = .ok c) ↔
    1 ≤ o.count ∧ Text.isBlank o.builderType = false ∧
      (o.setup = true → ∃ dir, makeDir = .ok dir) := by
  unfold prepare CreationRequest.ofBuilderType
  by_cases hcount : o.count = 0
  · simp [hcount]
  have hpos : 1 ≤ o.count := by omega
  cases hblank : Text.isBlank o.builderType <;> cases hsetup : o.setup <;> cases makeDir <;>
    simp [hcount, hpos]

theorem context_of_prepare (h : prepare o makeDir = .ok c) :
    c.options = o ∧ c.outputDir.isSome = o.setup := by
  unfold prepare at h
  split at h
  · cases h
  split at h
  · cases h
  split at h
  · rename_i hsetup
    cases makeDir with
    | error cause => cases h
    | ok dir => cases h; exact ⟨rfl, hsetup.symm⟩
  · rename_i hsetup
    cases h
    exact ⟨rfl, (Bool.eq_false_iff.2 hsetup).symm⟩

end

/-! ## Requests -/

theorem requests_filter (k : Nat) (events : List Event) :
    (requests events).filter (·.1 == k) = requests (eventsOf k events) := by
  induction events with
  | nil => rfl
  | cons event events ih =>
    unfold requests eventsOf at ih ⊢
    cases event with
    | requested index builderType =>
      by_cases hk : index = k <;> simp [Event.index?, hk, ih]
    | _ => rw [List.filter_cons]; split <;> simpa using ih

theorem requests_effects (k : Nat) (effects : List Effect) :
    requests (effects.filterMap (Effect.event? k)) =
      (effects.filterMap Effect.request?).map fun builderType => (k, builderType) := by
  unfold requests
  rw [List.filterMap_filterMap, List.map_filterMap]
  refine List.filterMap_congr fun e _ => ?_
  rcases e with _ | _ | _ | (_ | _) | _ <;> rfl

namespace State

variable {c : Context} {group : Option Group} {console : Console} {actions : List Action}
  {s : State}

theorem requests_of_hasAsked (h : (State.initial c group console).run c actions = some s) {i : Nat}
    {t : Task} (ht : s.tasks[i]? = some t) (ha : t.phase.hasAsked = true) :
    (requests s.events).filter (·.1 == i + 1) = [(i + 1, c.options.builderType)] := by
  obtain ⟨effects, hp, he⟩ := path_of_run h ht
  rw [requests_filter, he, requests_effects, hp.requests_of_hasAsked ha]
  rfl

theorem index_le_of_mem_requests (h : (State.initial c group console).run c actions = some s)
    {r : Nat × String} (hr : r ∈ requests s.events) : 1 ≤ r.1 ∧ r.1 ≤ c.options.count := by
  obtain ⟨event, hevent, he⟩ := List.mem_filterMap.1 hr
  refine index_le_of_mem_events h hevent ?_
  cases event with
  | requested index builderType => cases he; rfl
  | _ => cases he

theorem requests_perm (h : (State.initial c group console).run c actions = some s)
    (ha : ∀ t ∈ s.tasks, t.phase.hasAsked = true) :
    (requests s.events).Perm
      ((List.range' 1 c.options.count).map fun k => (k, c.options.builderType)) := by
  have hone : ∀ k, 1 ≤ k ∧ k ≤ c.options.count →
      (requests s.events).filter (·.1 == k) = [(k, c.options.builderType)] := by
    intro k hk
    obtain ⟨t, ht⟩ := exists_task h (show k - 1 < c.options.count by omega)
    have hreq := requests_of_hasAsked h ht (ha _ (List.mem_of_getElem? ht))
    rwa [Nat.sub_add_cancel hk.1] at hreq
  have hfst : ((requests s.events).map Prod.fst).Perm (List.range' 1 c.options.count) := by
    rw [List.perm_iff_count]
    intro k
    rw [count_map_fst, List.count_range_1']
    by_cases hk : 1 ≤ k ∧ k ≤ c.options.count
    · rw [hone k hk, if_pos (by omega)]
      rfl
    · rw [if_neg (by omega), List.length_eq_zero_iff, List.filter_eq_nil_iff]
      intro r hr hrk
      rw [beq_iff_eq] at hrk
      exact hk (hrk ▸ index_le_of_mem_requests h hr)
  -- All ask for the same type, so the ordinals make up the whole list.
  have hsnd : ∀ r ∈ requests s.events, (r.1, c.options.builderType) = r := by
    intro r hr
    have hmem : r ∈ (requests s.events).filter (·.1 == r.1) := by simp [hr]
    rw [hone r.1 (index_le_of_mem_requests h hr), List.mem_singleton] at hmem
    exact hmem.symm
  have hall : ((requests s.events).map Prod.fst).map (fun k => (k, c.options.builderType)) =
      requests s.events := by
    rw [List.map_map]
    exact (List.map_congr_left (g := id) hsnd).trans (List.map_id _)
  exact hall ▸ hfst.map _

/-! ## Tasks -/

/-- A task has succeeded in the end when it was given an instance and, with setup, push and run went
well. -/
theorem succeeded_iff (h : (State.initial c group console).run c actions = some s) {i : Nat} {t : Task}
    (ht : s.tasks[i]? = some t) {r : TaskResult} (hr : t.phase = .joined r) :
    r = .succeeded ↔ (∃ id, (i, id) ∈ completions actions) ∧
      (c.outputDir.isSome = true → answers i actions = [.ok (), .ok ()]) := by
  obtain ⟨effects, hp, -⟩ := path_of_run h ht
  have hfit := hp.answersFit
  rw [hr] at hfit
  constructor
  · rintro rfl
    obtain ⟨id, hid⟩ := hp.given_of_succeeded (by rw [hr]; rfl)
    exact ⟨⟨id, (mem_completions_iff h).2 ⟨t, ht, hid⟩⟩, hfit⟩
  · rintro ⟨⟨id, hid⟩, hanswers⟩
    cases hd : c.outputDir with
    | none =>
      obtain ⟨t', ht', hid⟩ := (mem_completions_iff h).1 hid
      obtain rfl : t = t' := Option.some.inj (ht.symm.trans ht')
      have hsucc := hp.succeeded_of_given hd hid
      rw [hr] at hsucc
      exact Option.some.inj hsucc
    | some dir =>
      cases r with
      | succeeded => rfl
      | failed e => exact absurd (hanswers (by simp [hd])) hfit
      | crashed detail => exact absurd (hanswers (by simp [hd])) hfit

theorem all_succeeded_iff (h : (State.initial c group console).run c actions = some s) (hd : s.Done) :
    (∀ t ∈ s.tasks, t.phase = .joined .succeeded) ↔
      ∀ i < c.options.count, (∃ id, (i, id) ∈ completions actions) ∧
        (c.outputDir.isSome = true → answers i actions = [.ok (), .ok ()]) := by
  constructor
  · intro hall i hi
    obtain ⟨t, ht⟩ := exists_task h hi
    exact (succeeded_iff h ht (hall _ (List.mem_of_getElem? ht))).1 rfl
  · intro hall t ht
    obtain ⟨r, hr⟩ := allJoined_iff.1 hd.1 t ht
    obtain ⟨i, hi⟩ := List.getElem?_of_mem ht
    rw [hr, (succeeded_iff h hi hr).2 (hall i (lt_count h hi))]

theorem completions_perm_range (h : (State.initial c group console).run c actions = some s)
    (hall : ∀ i < c.options.count, ∃ id, (i, id) ∈ completions actions) :
    ((completions actions).map Prod.fst).Perm (List.range c.options.count) := by
  rw [List.perm_ext_iff_of_nodup (nodup_completions h) List.nodup_range]
  intro i
  rw [List.mem_range, List.mem_map]
  constructor
  · rintro ⟨⟨i, id⟩, hm, rfl⟩
    obtain ⟨t, ht, -⟩ := (mem_completions_iff h).1 hm
    exact lt_count h ht
  · intro hi
    obtain ⟨id, hm⟩ := hall i hi
    exact ⟨_, hm, rfl⟩

/-! ## The result -/

theorem resultOf_eq_ok_iff {errors : List Error} {stored : List (Except GroupStore.Error Unit)}
    {outcome out : Outcome} (hlen : stored.length ≤ 1) : resultOf errors stored outcome = .ok out ↔
      errors = [] ∧ (∀ r ∈ stored, r = .ok ()) ∧ out = outcome := by
  rw [← selected_eq_none_iff]
  cases hsel : selected errors with
  | some e => simp [resultOf, hsel]
  | none =>
    cases stored with
    | nil => simp [resultOf, hsel, eq_comm]
    | cons r rest =>
      obtain rfl : rest = [] := List.length_eq_zero_iff.1 (Nat.le_zero.1 (Nat.le_of_succ_le_succ hlen))
      cases r with
      | error e => simp [resultOf, hsel]
      | ok => simp [resultOf, hsel, eq_comm]

theorem returned_ok_iff (h : (State.initial c group console).run c actions = some s)
    {result : Except Error Outcome} (hr : s.closing = .returned result) {out : Outcome} :
    result = .ok out ↔ (∀ t ∈ s.tasks, t.phase = .joined .succeeded) ∧
      (∀ r ∈ storeAnswers actions, r = .ok ()) ∧ out = ⟨s.recorded, s.group⟩ := by
  obtain ⟨-, hlength, rfl⟩ := stored_of_returned h hr
  rw [resultOf_eq_ok_iff (hlength ▸ (stored_at_end h).1),
    failures_eq_nil_iff h (done_of_returned h hr)]

/-- Instances that are all new and all different make the group larger by their number. -/
theorem size_group (h : (State.initial c group console).run c actions = some s) {g : Group}
    (hg : group = some g) (hn : s.recorded.Nodup) (hnew : ∀ id ∈ s.recorded, id.text ∉ g.instances) :
    ∃ g', s.group = some g' ∧ g'.size = g.size + s.recorded.length := by
  have hinj : Function.Injective InstanceId.text := fun _ _ hab => congrArg InstanceId.mk hab
  have htexts : (s.recorded.map InstanceId.text).Nodup := List.Nodup.map hinj hn
  exact ⟨_, by rw [group_eq h, hg, Option.map_some], Group.size_insertAll htexts hnew⟩

end State

section
variable {o : Options} {makeDir : Except IoError String} {group : Option Group}
  {actions actions' : List Action} {events events' : List Event} {out out' : Outcome}

/-- The instances of a successful creation are the completed ones. -/
theorem Returns.instances_eq (h : Returns o makeDir group actions events (.ok out)) :
    out.instances = (completions actions).map Prod.snd ∧
      ((completions actions).map Prod.fst).Nodup := by
  cases h with
  | ran _ hp h hr =>
    obtain ⟨-, -, rfl⟩ := (State.returned_ok_iff h hr).1 rfl
    exact ⟨State.recorded_of_drained h (State.done_of_returned h hr).2, State.nodup_completions h⟩

/-- The order of the completions does not matter for which instances are returned. -/
theorem Returns.instances_perm (h : Returns o makeDir group actions events (.ok out))
    (h' : Returns o makeDir group actions' events' (.ok out'))
    (hsame : ∀ i id, (i, id) ∈ completions actions' ↔ (i, id) ∈ completions actions) :
    out'.instances.Perm out.instances := by
  obtain ⟨heq, hn⟩ := h.instances_eq
  obtain ⟨heq', hn'⟩ := h'.instances_eq
  have hperm : (completions actions').Perm (completions actions) :=
    (List.perm_ext_iff_of_nodup (.of_map _ hn') (.of_map _ hn)).2 fun p => hsame p.1 p.2
  rw [heq, heq']
  exact hperm.map Prod.snd

/-- **Success means that everything succeeded** (`create`). A creation returns success just where
its options are sound, there is a directory for a wanted setup, each task consumed a completion and
had both commands of a wanted setup answered with success, and the store, if it was asked, agreed.
Then each task has asked once, for the wanted builder type; the instances are the completed ones,
one of each task, whatever the schedule; and a group that listed none of them has grown by their
number if they are all different. -/
theorem returns_ok_iff_all_succeeded {result : Except Error Outcome}
    (h : Returns o makeDir group actions events result) :
    ((∃ out, result = .ok out) ↔
      1 ≤ o.count ∧ Text.isBlank o.builderType = false ∧
        (o.setup = true → ∃ dir, makeDir = .ok dir) ∧
        (∀ i < o.count, (∃ id, (i, id) ∈ completions actions) ∧
          (o.setup = true → answers i actions = [.ok (), .ok ()])) ∧
        ∀ r ∈ storeAnswers actions, r = .ok ()) ∧
    ∀ out, result = .ok out →
      (requests events).Perm ((List.range' 1 o.count).map fun k => (k, o.builderType)) ∧
      ((completions actions).map Prod.fst).Perm (List.range o.count) ∧
      out.instances.Perm ((completions actions).map Prod.snd) ∧
      (∀ actions' events' out', Returns o makeDir group actions' events' (.ok out') →
        (∀ i id, (i, id) ∈ completions actions' ↔ (i, id) ∈ completions actions) →
        out'.instances.Perm out.instances) ∧
      ∀ g, group = some g → ((completions actions).map Prod.snd).Nodup →
        (∀ p ∈ completions actions, p.2.text ∉ g.instances) →
        ∃ g', out.group = some g' ∧ g'.size = g.size + o.count := by
  cases h with
  | refused hp =>
    have hno : ¬∃ c, prepare o makeDir = .ok c := by simp [hp]
    rw [exists_prepare_iff] at hno
    refine ⟨⟨nofun, fun ⟨hcount, hblank, hdir, _⟩ => absurd ⟨hcount, hblank, hdir⟩ hno⟩, nofun⟩
  | ran console hp h hr =>
    rename_i c s
    have hreturns := Returns.ran console hp h hr
    obtain ⟨hcount, hblank, hdir⟩ := exists_prepare_iff.1 ⟨c, hp⟩
    obtain ⟨rfl, hsetup⟩ := context_of_prepare hp
    have hd := State.done_of_returned h hr
    have hall := State.all_succeeded_iff h hd
    rw [hsetup] at hall
    refine ⟨⟨?_, ?_⟩, ?_⟩
    · rintro ⟨out, rfl⟩
      obtain ⟨hsucc, hstored, -⟩ := (State.returned_ok_iff h hr).1 rfl
      exact ⟨hcount, hblank, hdir, hall.1 hsucc, hstored⟩
    · rintro ⟨-, -, -, htasks, hstored⟩
      exact ⟨_, (State.returned_ok_iff h hr).2 ⟨hall.2 htasks, hstored, rfl⟩⟩
    · rintro out rfl
      obtain ⟨hsucc, -, hout⟩ := (State.returned_ok_iff h hr).1 rfl
      have hasked : ∀ t ∈ s.tasks, t.phase.hasAsked = true := fun t ht => by rw [hsucc t ht]; rfl
      have hrange := State.completions_perm_range h fun i hi => (hall.1 hsucc i hi).1
      have hlist := State.recorded_of_drained h hd.2
      refine ⟨State.requests_perm h hasked, hrange, .of_eq hreturns.instances_eq.1,
        fun _ _ _ h' hsame => hreturns.instances_perm h' hsame, ?_⟩
      intro g hg hn hnew
      have hnew' : ∀ id ∈ s.recorded, id.text ∉ g.instances := by
        intro id hid
        rw [hlist, List.mem_map] at hid
        obtain ⟨p, hm, rfl⟩ := hid
        exact hnew p hm
      -- The group grows by what was recorded, and that is one instance of each task.
      obtain ⟨g', hg', hsize⟩ := State.size_group h hg (hlist ▸ hn) hnew'
      have hlength : s.recorded.length = c.options.count := by
        have hlen := hrange.length_eq
        rw [List.length_map, List.length_range] at hlen
        rw [hlist, List.length_map, hlen]
      refine ⟨g', ?_, hlength ▸ hsize⟩
      rw [hout, hg']

end

/-- Two tasks that both set up what they are given; the second comes first. -/
def bothSucceed : List Action :=
  [.task 0 .call, .task 1 .call, .task 1 (.replied (.ok ()) .zero),
    .task 1 (.item (.ok (.pending 3)) .zero), .task 0 (.replied (.ok ()) .zero),
    .task 1 (.item (.ok (.complete ⟨"b"⟩)) .zero), .task 0 (.item (.ok (.complete ⟨"a"⟩)) .zero),
    .task 0 (.setup (.resolved (.ok "/go"))), .task 0 (.setup .announce), .task 0 (.setup .start),
    .task 1 (.setup (.resolved (.ok "/go"))), .task 1 (.setup .announce), .task 1 (.setup .start),
    .task 1 (.setup (.finished (.ok ()))), .task 1 (.setup .announce), .task 1 (.setup .start),
    .task 0 (.setup (.finished (.ok ()))), .task 0 (.setup .announce), .task 0 (.setup .start),
    .task 0 (.setup (.finished (.ok ()))), .record, .task 1 (.setup (.finished (.ok ()))),
    .join 1, .record, .join 0, .drain, .store (.ok ()), .finish]

def twoSetUp : Options := { builderType := "linux", count := 2, setup := true }

theorem bothSucceed_returns :
    ∃ events, Returns twoSetUp (.ok "/out") (some ⟨"fleet", ["c"]⟩) bothSucceed events
        (.ok ⟨[⟨"b"⟩, ⟨"a"⟩], some ⟨"fleet", ["c", "b", "a"]⟩⟩) ∧
      (requests events).Perm [(1, "linux"), (2, "linux")] := by
  have key : ∀ events, Returns twoSetUp (.ok "/out") (some ⟨"fleet", ["c"]⟩) bothSucceed events
        (.ok ⟨[⟨"b"⟩, ⟨"a"⟩], some ⟨"fleet", ["c", "b", "a"]⟩⟩) →
      (requests events).Perm [(1, "linux"), (2, "linux")] := by
    intro events h
    exact ((returns_ok_iff_all_succeeded h).2 _ rfl).1
  have h : Returns twoSetUp (.ok "/out") (some ⟨"fleet", ["c"]⟩) bothSucceed _ _ :=
    .ran .working rfl rfl rfl
  exact ⟨_, h, key _ h⟩

end BuildFleet.Creation
