import BuildFleet.Group
/-!
# Adding many instances to a group

Instances that are added one after the other go to the end of the group's list, in their order. Those
that the group lists already, and repeats, change nothing (`insertAll_eq`). So a list without repeats
stays one, and its old instances stay in front.
-/
namespace BuildFleet.Group

theorem create_eq_ok_iff {name : String} {g : Group} :
    create name = .ok g ↔ nameRefusal name = none ∧ g = ⟨name, []⟩ := by
  unfold create
  cases h : nameRefusal name <;> simp [eq_comm]

theorem mem_insert_of_mem {g : Group} {id : InstanceId} {text : String} (h : text ∈ g.instances) :
    text ∈ (g.insert id).instances := by
  by_cases hid : id.text ∈ g.instances
  · rwa [insert_of_mem hid]
  · rw [insert_of_not_mem hid]
    exact List.mem_append_left _ h

def insertAll (g : Group) (ids : List InstanceId) : Group := ids.foldl insert g

/-- What instances add to a group's list: those that it does not list, each where it comes first. -/
def additions (g : Group) (ids : List InstanceId) : List String :=
  ((ids.map InstanceId.text).filter fun text => !g.instances.contains text).eraseDups

theorem insertAll_concat (g : Group) (ids : List InstanceId) (id : InstanceId) :
    g.insertAll (ids ++ [id]) = (g.insertAll ids).insert id := by
  simp [insertAll]

theorem additions_cons_of_mem {g : Group} {id : InstanceId} (h : id.text ∈ g.instances)
    (ids : List InstanceId) : g.additions (id :: ids) = g.additions ids := by
  simp [additions, h]

theorem additions_cons_of_not_mem {g : Group} {id : InstanceId} (h : id.text ∉ g.instances)
    (ids : List InstanceId) :
    g.additions (id :: ids) = id.text :: additions ⟨g.name, g.instances ++ [id.text]⟩ ids := by
  have hf : (ids.map InstanceId.text).filter (fun text => !(g.instances ++ [id.text]).contains text) =
      ((ids.map InstanceId.text).filter fun text => !g.instances.contains text).filter
        fun text => !text == id.text := by
    rw [List.filter_filter]
    refine List.filter_congr fun text _ => ?_
    by_cases ht : text = id.text <;> simp [ht]
  simp only [additions, List.map_cons]
  rw [List.filter_cons_of_pos (by simpa using h), List.eraseDups_cons, hf]

/-- Adding instances leaves the old list in front, and puts what is new behind it. -/
theorem insertAll_eq (g : Group) (ids : List InstanceId) :
    g.insertAll ids = ⟨g.name, g.instances ++ g.additions ids⟩ := by
  induction ids generalizing g with
  | nil => simp [insertAll, additions]
  | cons id ids ih =>
    have hc : g.insertAll (id :: ids) = (g.insert id).insertAll ids := rfl
    rw [hc]
    by_cases h : id.text ∈ g.instances
    · rw [insert_of_mem h, additions_cons_of_mem h]
      exact ih g
    · rw [insert_of_not_mem h, additions_cons_of_not_mem h, ih]
      simp

theorem nodup_insert {g : Group} (h : g.instances.Nodup) (id : InstanceId) :
    (g.insert id).instances.Nodup := by
  by_cases hm : id.text ∈ g.instances
  · rwa [insert_of_mem hm]
  · rw [insert_of_not_mem hm]
    refine List.nodup_append.2 ⟨h, by simp, ?_⟩
    intro text ht text' ht' heq
    obtain rfl := List.mem_singleton.1 ht'
    exact hm (heq ▸ ht)

theorem nodup_insertAll {g : Group} (h : g.instances.Nodup) (ids : List InstanceId) :
    (g.insertAll ids).instances.Nodup := by
  induction ids generalizing g with
  | nil => exact h
  | cons id ids ih => exact ih (nodup_insert h id)

theorem mem_insertAll {g : Group} {ids : List InstanceId} {text : String} :
    text ∈ (g.insertAll ids).instances ↔ text ∈ g.instances ∨ ∃ id ∈ ids, id.text = text := by
  rw [insertAll_eq]
  simp only [additions, List.mem_append, List.mem_eraseDups, List.mem_filter, List.mem_map]
  by_cases h : text ∈ g.instances <;> simp [h]

theorem size_insertAll {g : Group} {ids : List InstanceId} (hn : (ids.map InstanceId.text).Nodup)
    (hd : ∀ id ∈ ids, id.text ∉ g.instances) : (g.insertAll ids).size = g.size + ids.length := by
  induction ids generalizing g with
  | nil => rfl
  | cons id ids ih =>
    obtain ⟨hid, hn⟩ := List.nodup_cons.1 hn
    have hins : g.insert id = ⟨g.name, g.instances ++ [id.text]⟩ :=
      insert_of_not_mem (hd id (by simp))
    have hrest : ∀ other ∈ ids, other.text ∉ (g.insert id).instances := by
      intro other ho hm
      rw [hins] at hm
      rcases List.mem_append.1 hm with hm | hm
      · exact hd other (by simp [ho]) hm
      · exact hid (List.mem_map.2 ⟨other, ho, List.mem_singleton.1 hm⟩)
    have hsize : ((g.insert id).insertAll ids).size = (g.insert id).size + ids.length := ih hn hrest
    rw [show g.insertAll (id :: ids) = (g.insert id).insertAll ids from rfl, hsize, hins]
    simp [size]
    omega

end BuildFleet.Group
