import ClusterQuery.Proofs.Merge.Repeats
import Mathlib.Data.List.Permutation

/-!
# Merging rearranged batches

A merge without a limit has the entries of its records, each once, in the order of their keys. So
what the batches hold determines the keys, and the texts under each key; how the records are spread
over the batches decides between records with equal keys. A limit cuts off no record whose key comes
before that of the last record it leaves.
-/

namespace ClusterQuery.Merge

variable (order : SortOrder)

/-! ## The entries of a merge -/

theorem mem_map_entryOf_wholeMerge {records : List Record} {entry : Value × String} :
    entry ∈ (wholeMerge order records).map (entryOf order) ↔
      entry ∈ records.map (entryOf order) := by
  rw [wholeMerge, mem_map_entryOf_withoutRepeats]
  exact ((List.mergeSort_perm records order.atMost).map (entryOf order)).mem_iff

/-- The entries of a merge are those of its records, each once. -/
theorem perm_map_entryOf_wholeMerge {records others : List Record}
    (same : ∀ entry, entry ∈ records.map (entryOf order) ↔ entry ∈ others.map (entryOf order)) :
    ((wholeMerge order records).map (entryOf order)).Perm
      ((wholeMerge order others).map (entryOf order)) := by
  have distinct (records : List Record) : ((wholeMerge order records).map (entryOf order)).Nodup :=
    nodup_map_entryOf_withoutRepeats order [] (order.sort records)
  rw [List.perm_ext_iff_of_nodup (distinct records) (distinct others)]
  intro entry
  rw [mem_map_entryOf_wholeMerge, mem_map_entryOf_wholeMerge, same]

/-- The entries determine the keys, one after the other. -/
theorem map_key_wholeMerge_congr {records others : List Record}
    (same : ∀ entry, entry ∈ records.map (entryOf order) ↔ entry ∈ others.map (entryOf order)) :
    (wholeMerge order records).map order.key = (wholeMerge order others).map order.key := by
  have sorted (records : List Record) : ((wholeMerge order records).map order.key).Pairwise
      fun left right => order.keysAtMost left right = true :=
    List.pairwise_map.mpr (pairwise_wholeMerge order records)
  have keys : ((wholeMerge order records).map order.key).Perm
      ((wholeMerge order others).map order.key) := by
    have entries := (perm_map_entryOf_wholeMerge order same).map Prod.fst
    rwa [List.map_map, List.map_map] at entries
  refine keys.eq_of_pairwise ?_ (sorted records) (sorted others)
  intro left right _ _ before after
  exact order.keysAtMost_antisymm before after

/-! ## What the limit cuts off -/

/-- What is cut off has no key before that of the last record that is left. -/
theorem atMost_of_mem_drop {records : List Record} (sorted : records.Pairwise (order.atMost · ·))
    {limit : Nat} {last cut : Record} (isLast : (records.take limit).getLast? = some last)
    (isCut : cut ∈ records.drop limit) : order.atMost last cut = true := by
  rw [← List.take_append_drop limit records] at sorted
  exact (List.pairwise_append.mp sorted).2.2 last (List.mem_of_getLast? isLast) cut isCut

/-- Whether a limit leaves all records under a key: the key comes before that of the last record
that is left, or nothing is cut off. -/
def Spares (limit : Nat) (merged : List Record) (key : Value) : Prop :=
  (∃ last, merged.getLast? = some last ∧ order.compareKeys key (order.key last) = .lt) ∨
    merged.length < limit

variable {order} in
/-- It depends on the keys whether a limit spares one. -/
theorem Spares.of_map_key_eq {limit : Nat} {left right : List Record} {key : Value}
    (same : left.map order.key = right.map order.key) (spares : Spares order limit left key) :
    Spares order limit right key := by
  rcases spares with ⟨last, isLast, before⟩ | short
  · have lastKey : (right.map order.key).getLast? = some (order.key last) := by
      rw [← same, List.getLast?_map, isLast]
      rfl
    rw [List.getLast?_map, Option.map_eq_some_iff] at lastKey
    obtain ⟨other, isOther, sameKey⟩ := lastKey
    exact .inl ⟨other, isOther, sameKey ▸ before⟩
  · rw [← List.length_map order.key, same, List.length_map] at short
    exact .inr short

/-- The texts of the records under a key. -/
def textsUnder (key : Value) (records : List Record) : List String :=
  (records.filter fun record => order.key record = key).map Record.text

theorem textsUnder_eq (key : Value) (records : List Record) :
    textsUnder order key records =
      ((records.map (entryOf order)).filter fun entry => entry.1 = key).map Prod.snd := by
  rw [textsUnder, List.filter_map, List.map_map]
  rfl

/-- A limit leaves the records under a key that it spares as they are. -/
theorem textsUnder_take {records : List Record} (sorted : records.Pairwise (order.atMost · ·))
    {limit : Nat} {key : Value} (spares : Spares order limit (records.take limit) key) :
    textsUnder order key (records.take limit) = textsUnder order key records := by
  rcases spares with ⟨last, isLast, before⟩ | short
  · have noneCut : (records.drop limit).filter (fun record => order.key record = key) = [] := by
      rw [List.filter_eq_nil_iff]
      intro cut isCut underKey
      have after := atMost_of_mem_drop order sorted isLast isCut
      rw [SortOrder.atMost, SortOrder.compare, of_decide_eq_true underKey,
        Std.OrientedCmp.gt_of_lt before] at after
      cases after
    conv_rhs => rw [← List.take_append_drop limit records]
    rw [textsUnder, textsUnder, List.filter_append, noneCut, List.append_nil]
  · rw [List.take_of_length_le]
    rw [List.length_take] at short
    omega

/-! ## Rearranged batches -/

/-- Rearranging the batches changes what a merge returns among records with equal keys only. -/
theorem merge_of_perm {left right : List (List Record)} (same : left.flatten.Perm right.flatten)
    (limit : Nat) :
    (merge left order limit).length = (merge right order limit).length ∧
      (merge left order limit).map order.key = (merge right order limit).map order.key ∧
      ∀ key, Spares order limit (merge left order limit) key →
        (textsUnder order key (merge left order limit)).Perm
          (textsUnder order key (merge right order limit)) := by
  have sameEntries (entry : Value × String) :
      entry ∈ left.flatten.map (entryOf order) ↔ entry ∈ right.flatten.map (entryOf order) :=
    (same.map (entryOf order)).mem_iff
  have keys : (merge left order limit).map order.key = (merge right order limit).map order.key := by
    rw [merge_eq_take_wholeMerge, merge_eq_take_wholeMerge, List.map_take, List.map_take,
      map_key_wholeMerge_congr order sameEntries]
  have lengths : (merge left order limit).length = (merge right order limit).length := by
    rw [← List.length_map order.key, keys, List.length_map]
  refine ⟨lengths, keys, fun key spares => ?_⟩
  have sparesAlso := spares.of_map_key_eq keys
  rw [merge_eq_take_wholeMerge] at spares sparesAlso ⊢
  rw [merge_eq_take_wholeMerge]
  rw [textsUnder_take order (pairwise_wholeMerge order _) spares,
    textsUnder_take order (pairwise_wholeMerge order _) sparesAlso, textsUnder_eq, textsUnder_eq]
  exact ((perm_map_entryOf_wholeMerge order sameEntries).filter _).map _

/-- The limit cuts off one of the two nodes of one host. Which one depends on how the batches are
arranged; the node of the other host, and how many there are, does not. -/
theorem merge_of_perm_of_three_nodes :
    let named (id host : String) : Record :=
      ⟨.node, .object [("node", .object [("id", .string id), ("host", .string host),
          ("port", .ofNat 1), ("status", .string "UP")])],
        [.scalar (.text id), .scalar (.text host), .scalar (.int 1), .scalar (.enum 0 "UP"),
          .scalar .null, .scalar .null, .unread], by rfl⟩
    let order : SortOrder := ⟨⟨.node, "node.host", [1], .string⟩, .descending⟩
    let left := [[named "a" "g", named "b" "g"], [named "c" "h"]]
    let right := [[named "c" "h"], [named "b" "g", named "a" "g"]]
    left.flatten.Perm right.flatten ∧
      (merge left order 2).map (Record.valueAt · [0]) = [.text "c", .text "a"] ∧
      (merge right order 2).map (Record.valueAt · [0]) = [.text "c", .text "b"] ∧
      (merge left order 2).map order.key = (merge right order 2).map order.key ∧
      (textsUnder order (.text "h") (merge left order 2)).Perm
        (textsUnder order (.text "h") (merge right order 2)) := by
  intro named order left right
  have same : left.flatten.Perm right.flatten := (List.reverse_perm left.flatten).symm
  obtain ⟨-, keys, texts⟩ := merge_of_perm order same 2
  have lastKey : (merge left order 2).getLast?.map order.key = some (.text "g") := by cbv
  obtain ⟨last, isLast, isKey⟩ := Option.map_eq_some_iff.mp lastKey
  have before : order.compareKeys (.text "h") (order.key last) = .lt := by
    rw [isKey]
    decide
  exact ⟨same, by cbv, by cbv, keys, texts (.text "h") (.inl ⟨last, isLast, before⟩)⟩

end ClusterQuery.Merge
