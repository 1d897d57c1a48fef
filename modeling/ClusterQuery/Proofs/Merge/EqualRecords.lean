import ClusterQuery.Proofs.Merge.Rearrangement
import ClusterQuery.Proofs.Record.OfKind

/-!
# Equal records in a merge

A merge tells records under one key apart by their texts. Among records of one kind the text
determines the record, so what is left out stands elsewhere in the merge, and no record is lost to
another one. Equality of records is coarser: it overlooks the signs of floating zeros, which the
text shows. Records that differ in nothing else are equal, have one key, and are both returned.
-/

namespace ClusterQuery.Merge

variable (order : SortOrder) {kind : RecordKind} {batches : List (List Record)}

theorem wholeMerge_subset (records : List Record) : wholeMerge order records ⊆ records := by
  intro record member
  exact List.mem_mergeSort.mp ((withoutRepeats_sublist order [] _).subset member)

theorem merge_subset (batches : List (List Record)) (limit : Nat) :
    merge batches order limit ⊆ batches.flatten := by
  intro record member
  exact List.mem_flatten.mpr (exists_batch_of_mem_merge order member)

/-- Before the limit cuts it, a merge of records of one kind holds every one of them. -/
theorem mem_wholeMerge_iff {records : List Record} (uniform : Record.OfKind kind records)
    {record : Record} : record ∈ wholeMerge order records ↔ record ∈ records := by
  constructor
  · exact fun member => wholeMerge_subset order records member
  · intro member
    have entry : entryOf order record ∈ (wholeMerge order records).map (entryOf order) :=
      (mem_map_entryOf_wholeMerge order).mpr (List.mem_map_of_mem member)
    obtain ⟨kept, isKept, sameEntry⟩ := List.mem_map.mp entry
    have sameText : kept.text = record.text := (Prod.mk.inj sameEntry).2
    have same := uniform.eq_of_text (wholeMerge_subset order records isKept) member sameText
    exact same ▸ isKept

theorem mem_merge_of_room (uniform : Record.OfKind kind batches.flatten) {limit : Nat}
    (room : batches.flatten.length ≤ limit) {record : Record} (member : record ∈ batches.flatten) :
    record ∈ merge batches order limit := by
  rw [merge_eq_wholeMerge order room]
  exact (mem_wholeMerge_iff order uniform).mpr member

/-- Records whose documents differ do not stand for each other. -/
theorem exists_positions_of_room (uniform : Record.OfKind kind batches.flatten) {limit : Nat}
    (room : batches.flatten.length ≤ limit) {left right : Record}
    (leftMember : left ∈ batches.flatten) (rightMember : right ∈ batches.flatten)
    (different : left.document ≠ right.document) :
    ∃ i j : Nat, i ≠ j ∧ (merge batches order limit)[i]? = some left ∧
      (merge batches order limit)[j]? = some right := by
  have leftReturned := mem_merge_of_room order uniform room leftMember
  have rightReturned := mem_merge_of_room order uniform room rightMember
  obtain ⟨i, isLeft⟩ := List.mem_iff_getElem?.mp leftReturned
  obtain ⟨j, isRight⟩ := List.mem_iff_getElem?.mp rightReturned
  refine ⟨i, j, ?_, isLeft, isRight⟩
  rintro rfl
  rw [isLeft, Option.some.injEq] at isRight
  exact different (congrArg Record.document isRight)

/-- A record is returned, or cut off by the limit, and then its key does not come before that of
the last record returned. -/
theorem mem_merge_or_cut (uniform : Record.OfKind kind batches.flatten) {limit : Nat}
    (positive : 0 < limit) {record : Record} (member : record ∈ batches.flatten) :
    record ∈ merge batches order limit ∨
      ∃ last, (merge batches order limit).getLast? = some last ∧
        order.compareKeys (order.key record) (order.key last) ≠ .lt := by
  rw [merge_eq_take_wholeMerge]
  have standing : record ∈ wholeMerge order batches.flatten :=
    (mem_wholeMerge_iff order uniform).mpr member
  rw [← List.take_append_drop limit (wholeMerge order batches.flatten), List.mem_append] at standing
  refine standing.imp_right fun isCut => ?_
  have notEmpty : (wholeMerge order batches.flatten).take limit ≠ [] := by
    rw [ne_eq, List.take_eq_nil_iff, not_or]
    exact ⟨Nat.ne_of_gt positive, List.ne_nil_of_mem (List.mem_of_mem_drop isCut)⟩
  refine ⟨_, List.getLast?_eq_some_getLast notEmpty, fun before => ?_⟩
  have after := atMost_of_mem_drop order (pairwise_wholeMerge order batches.flatten)
    (List.getLast?_eq_some_getLast notEmpty) isCut
  rw [SortOrder.atMost, SortOrder.compare, Std.OrientedCmp.gt_of_lt before] at after
  cases after

/-- Leaving out repeats loses no record. Every record has an equal one in a merge with room for all
of them; with less room, one that has none does not come before the last record returned. Records
whose documents differ anywhere are both returned. -/
theorem merge_loses_no_record (uniform : Record.OfKind kind batches.flatten) (limit : Nat) :
    (batches.flatten.length ≤ limit → ∀ record ∈ batches.flatten,
      ∃ kept ∈ merge batches order limit, kept.same record = true) ∧
    (0 < limit → ∀ record ∈ batches.flatten,
      (∀ kept ∈ merge batches order limit, kept.same record = false) →
        ∃ last, (merge batches order limit).getLast? = some last ∧
          order.compareKeys (order.key record) (order.key last) ≠ .lt) ∧
    (batches.flatten.length ≤ limit → ∀ left ∈ batches.flatten, ∀ right ∈ batches.flatten,
      left.document ≠ right.document →
        ∃ i j : Nat, i ≠ j ∧ (merge batches order limit)[i]? = some left ∧
          (merge batches order limit)[j]? = some right) := by
  have equalsItself : ∀ record ∈ batches.flatten, record.same record = true :=
    fun record member => (uniform.same_iff_unsignZeros member member).mpr rfl
  refine ⟨?_, ?_, ?_⟩
  · intro room record member
    exact ⟨record, mem_merge_of_room order uniform room member, equalsItself record member⟩
  · intro positive record member noneEqual
    refine (mem_merge_or_cut order uniform positive member).resolve_left fun isKept => ?_
    have different := noneEqual record isKept
    rw [equalsItself record member] at different
    cases different
  · intro room left leftMember right rightMember different
    exact exists_positions_of_room order uniform room leftMember rightMember different

/-- Two nodes with one port, once written as a number and once as a string, are both returned; and
where there is room for one record only, the other one does not come before it. -/
theorem merge_loses_no_record_of_spellings :
    let document (port : Json) : Json := .object [("node", .object [("id", .string "a"),
      ("host", .string "h"), ("port", port), ("status", .string "UP")])]
    let slots : List Slot := [.scalar (.text "a"), .scalar (.text "h"), .scalar (.int 1),
      .scalar (.enum 0 "UP"), .scalar .null, .scalar .null, .unread]
    let number : Record := ⟨.node, document (.ofNat 1), slots, by rfl⟩
    let string : Record := ⟨.node, document (.string "1"), slots, by rfl⟩
    let order : SortOrder := ⟨⟨.node, "node.port", [2], .integer⟩, .descending⟩
    let batches := [[number], [number, string]]
    Record.OfKind .node batches.flatten ∧ order.key number = order.key string ∧
      (∃ kept ∈ merge batches order 3, kept.same number = true) ∧
      (∃ i j : Nat, i ≠ j ∧ (merge batches order 3)[i]? = some number ∧
        (merge batches order 3)[j]? = some string) ∧
      ∃ last, (merge batches order 1).getLast? = some last ∧
        order.compareKeys (order.key string) (order.key last) ≠ .lt := by
  intro document values number string order batches
  have uniform : Record.OfKind .node batches.flatten :=
    { kind_eq := by simp [batches, number, string]
      finite := by simp [batches, number, string]; decide }
  have numberMember : number ∈ batches.flatten := by simp [batches]
  have stringMember : string ∈ batches.flatten := by simp [batches]
  have noneEqual : ((merge batches order 1).all fun kept => !kept.same string) = true := by cbv
  obtain ⟨equals, -, bothReturned⟩ := merge_loses_no_record order uniform 3
  obtain ⟨-, notBefore, -⟩ := merge_loses_no_record order uniform 1
  refine ⟨uniform, rfl, equals (by decide) number numberMember, ?_, ?_⟩
  · apply bothReturned (by decide) number numberMember string stringMember
    simp [number, string, document, Json.ofNat]
  · apply notBefore (by decide) string stringMember
    simpa using noneEqual

/-- No two records of a merge have one document. -/
theorem merge_pairwise_document_ne (uniform : Record.OfKind kind batches.flatten) (limit : Nat) :
    (merge batches order limit).Pairwise fun left right => left.document ≠ right.document := by
  refine (merge_pairwise_ne order batches limit).imp_of_mem ?_
  intro left right leftMember rightMember notRepeated sameDocument
  have sameKind : left.kind = right.kind := by
    rw [uniform.kind_eq left (merge_subset order batches limit leftMember),
      uniform.kind_eq right (merge_subset order batches limit rightMember)]
  have equal : left = right := Record.eq_of_document sameKind sameDocument
  rw [equal, (sameEntry_iff order).mpr ⟨rfl, rfl⟩] at notRepeated
  cases notRepeated

/-- No record is returned twice. Equal records that are both returned have one key and differ in the
sign of a floating zero, and nothing else; and there are such records in a merge, unless all equal
records among the batches have one document or the limit cuts one of them off. -/
theorem merge_equal_records (uniform : Record.OfKind kind batches.flatten) :
    (∀ limit, (merge batches order limit).Pairwise fun left right =>
      left.document ≠ right.document ∧
        (left.same right = true → order.key left = order.key right ∧
          left.document.unsignZeros = right.document.unsignZeros)) ∧
    ((∀ limit, (merge batches order limit).Pairwise fun left right => left.same right = false) ↔
      ∀ left ∈ batches.flatten, ∀ right ∈ batches.flatten, left.same right = true →
        left.document = right.document) := by
  have isInput (limit : Nat) := @merge_subset order batches limit
  have apart (limit : Nat) := merge_pairwise_document_ne order uniform limit
  refine ⟨fun limit => ?_, ?_, ?_⟩
  · refine (apart limit).imp_of_mem ?_
    intro left right leftMember rightMember different
    refine ⟨different, fun equal => ⟨Record.key_eq_of_same order equal, ?_⟩⟩
    exact (uniform.same_iff_unsignZeros (isInput limit leftMember)
      (isInput limit rightMember)).mp equal
  · intro noneEqual left leftMember right rightMember equal
    -- Both are returned where nothing is cut off.
    let whole := merge batches order batches.flatten.length
    have returned : ∀ record ∈ batches.flatten, record ∈ whole := fun record member =>
      mem_merge_of_room order uniform (Nat.le_refl _) member
    have signsApart : (whole.map fun record => record.document.unsignZeros).Nodup := by
      rw [List.Nodup, List.pairwise_map]
      refine (noneEqual batches.flatten.length).imp_of_mem ?_
      intro left right leftMember rightMember notEqual agree
      rw [(uniform.same_iff_unsignZeros (isInput _ leftMember) (isInput _ rightMember)).mpr agree]
        at notEqual
      cases notEqual
    have agree := (uniform.same_iff_unsignZeros leftMember rightMember).mp equal
    exact congrArg Record.document (List.inj_on_of_nodup_map signsApart (returned left leftMember)
      (returned right rightMember) agree)
  · intro oneDocument limit
    refine (apart limit).imp_of_mem ?_
    intro left right leftMember rightMember different
    rw [Bool.eq_false_iff]
    intro equal
    exact different (oneDocument left (isInput limit leftMember) right
      (isInput limit rightMember) equal)

/-- A record that two peers report is returned once, and next to it the one that another node wrote
at the same time. -/
theorem merge_equal_records_of_two_peers :
    let log (node : String) : Record :=
      ⟨.log, .object [("log", .object [("level", .string "INFO"), ("logger", .string "l"),
          ("message", .string "m"), ("node", .string node), ("thread", .string "t"),
          ("ts", .ofNat 1000)])],
        [.scalar (.timestamp ⟨1, 0⟩), .scalar (.enum 2 "INFO"), .scalar (.text "l"),
          .scalar (.text "t"), .scalar (.text "m"), .scalar (.text node), .scalar .null, .unread],
        by rfl⟩
    let order : SortOrder := ⟨⟨.log, "log.ts", [0], .timestamp⟩, .ascending⟩
    let batches := [[log "a"], [log "a", log "b"]]
    Record.OfKind .log batches.flatten ∧
      ∀ limit, (merge batches order limit).Pairwise fun left right => left.same right = false := by
  intro log order batches
  have uniform : Record.OfKind .log batches.flatten :=
    { kind_eq := by simp [batches, log]
      finite := by simp [batches, log]; decide }
  refine ⟨uniform, (merge_equal_records order uniform).2.mpr ?_⟩
  have apart : (log "a").same (log "b") = false ∧ (log "b").same (log "a") = false := ⟨rfl, rfl⟩
  simp [batches, apart]

/-- Two records that differ in the sign of a zero are equal, and are both returned. -/
theorem merge_returns_both_zeros :
    let signed (negative : Bool) : Record :=
      ⟨.log, .object [("log", .object [("level", .string "INFO"), ("logger", .string "l"),
          ("mdc", .object [("x", .number (.floating (.zero negative)))]), ("message", .string "m"),
          ("node", .string "n"), ("thread", .string "t"), ("ts", .ofNat 1000)])],
        [.scalar (.timestamp ⟨1, 0⟩), .scalar (.enum 2 "INFO"), .scalar (.text "l"),
          .scalar (.text "t"), .scalar (.text "m"), .scalar (.text "n"), .scalar .null, .unread],
        by rfl⟩
    let order : SortOrder := ⟨⟨.log, "log.ts", [0], .timestamp⟩, .ascending⟩
    let merged := merge [[signed false], [signed true]] order 10
    (∃ i j : Nat, i ≠ j ∧ merged[i]? = some (signed false) ∧ merged[j]? = some (signed true)) ∧
      (signed false).same (signed true) = true := by
  intro signed order merged
  have uniform : Record.OfKind .log [[signed false], [signed true]].flatten :=
    { kind_eq := by simp [signed]
      finite := by simp [signed]; decide }
  have different : (signed false).document ≠ (signed true).document := by
    simp [signed, Binary64.zero, Binary64.ofMagnitude]
  exact ⟨exists_positions_of_room order uniform (by decide) (by simp) (by simp) different, rfl⟩

end ClusterQuery.Merge
