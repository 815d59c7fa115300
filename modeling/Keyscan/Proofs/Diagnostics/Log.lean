import Mathlib.Data.List.Nodup
import Keyscan.Diagnostics.Log
import Keyscan.Proofs.Json.Lines
import Keyscan.Proofs.Text.Order

/-!
Log lines. Whatever texts an event and its fields hold, a line is one JSON object and a newline, and
reads back as what was logged (`render_line`). The fields stand in the order of the bytes of their
keys, those with equal keys in the order in which they were given; that leaves one order only
(`InKeyOrder.unique`), so a line depends on nothing but the values given under each key
(`render_eq_iff`).
-/

set_option autoImplicit false

namespace Keyscan.Log

variable {fields fields' sorted sorted' : List (String × String)}

/-! ### The order of fields -/

/-- The fields with a key, in the order in which they stand. -/
def under (key : String) (fields : List (String × String)) : List (String × String) :=
  fields.filter fun p => p.1 = key

/-- No field has a key whose bytes come before those of a key in front of it. -/
def Ordered (fields : List (String × String)) : Prop :=
  fields.Pairwise fun p q => ¬ Text.BytesBefore q.1 p.1

/-- The same fields, in the order of the bytes of their keys; fields with equal keys keep their
order. -/
structure InKeyOrder (fields sorted : List (String × String)) : Prop where
  perm : sorted.Perm fields
  ordered : Ordered sorted
  stable : ∀ key, under key sorted = under key fields

theorem mem_under {key : String} {p : String × String} :
    p ∈ under key fields ↔ p ∈ fields ∧ p.1 = key := by
  simp [under]

/-- Sorting puts the fields in the order of their keys. -/
theorem inKeyOrder_sortFields (fields : List (String × String)) :
    InKeyOrder fields (sortFields fields) := by
  have trans (a b c : String × String) :
      decide (a.1 ≤ b.1) = true → decide (b.1 ≤ c.1) = true → decide (a.1 ≤ c.1) = true := by
    simpa only [decide_eq_true_eq] using String.le_trans
  have total (a b : String × String) : (decide (a.1 ≤ b.1) || decide (b.1 ≤ a.1)) = true := by
    simpa only [Bool.or_eq_true, decide_eq_true_eq] using String.le_total a.1 b.1
  have perm : (sortFields fields).Perm fields := List.mergeSort_perm _ _
  refine ⟨perm, ?_, fun key => ?_⟩
  · refine (List.pairwise_mergeSort trans total fields).imp fun {p q} le => ?_
    rw [Text.bytesBefore_iff, String.not_lt]
    exact of_decide_eq_true le
  · -- The fields with one key are in order as they stand, so sorting leaves them in place.
    have own : (under key fields).Pairwise fun p q => decide (p.1 ≤ q.1) = true := by
      refine List.pairwise_of_forall_mem_list fun p hp q hq => ?_
      rw [(mem_under.1 hp).2, (mem_under.1 hq).2]
      exact decide_eq_true (String.le_refl key)
    have kept : (under key fields).Sublist (sortFields fields) :=
      List.sublist_mergeSort trans total own List.filter_sublist
    have again := kept.filter fun p => p.1 = key
    rw [under, List.filter_filter] at again
    simp only [Bool.and_self] at again
    exact (again.eq_of_length (perm.filter _).length_eq.symm).symm

theorem under_cons (key : String) (p : String × String) (rest : List (String × String)) :
    under key (p :: rest) = if p.1 = key then p :: under key rest else under key rest := by
  simp only [under, List.filter_cons, decide_eq_true_eq]

/-- The first of ordered fields has the first key. -/
theorem Ordered.first {p q : String × String} {rest : List (String × String)}
    (ordered : Ordered (p :: rest)) (mem : q ∈ p :: rest) : ¬ q.1 < p.1 := by
  rcases List.mem_cons.1 mem with rfl | behind
  · exact String.lt_irrefl _
  · exact fun less => List.rel_of_pairwise_cons ordered behind (Text.bytesBefore_iff.2 less)

theorem mem_of_under (same : ∀ key, under key fields = under key fields')
    {p : String × String} (mem : p ∈ fields) : p ∈ fields' :=
  (mem_under.1 (same p.1 ▸ mem_under.2 ⟨mem, rfl⟩)).1

/-- Ordered fields are known from the fields with each key. -/
theorem Ordered.eq_of_under (ordered : Ordered fields) (ordered' : Ordered fields')
    (same : ∀ key, under key fields = under key fields') : fields = fields' := by
  induction fields generalizing fields' with
  | nil => exact (List.eq_nil_iff_forall_not_mem.2 fun p mem =>
      nomatch mem_of_under (fun key => (same key).symm) mem).symm
  | cons p rest ih =>
      cases fields' with
      | nil => exact nomatch mem_of_under same List.mem_cons_self
      | cons q more =>
          have mem : q ∈ p :: rest := mem_of_under (fun key => (same key).symm) List.mem_cons_self
          have mem' : p ∈ q :: more := mem_of_under same List.mem_cons_self
          have key : p.1 = q.1 := String.le_antisymm (String.not_lt.1 (ordered.first mem))
            (String.not_lt.1 (ordered'.first mem'))
          have first := same p.1
          rw [under_cons, under_cons, if_pos rfl, if_pos key.symm] at first
          obtain ⟨rfl, -⟩ := List.cons.inj first
          refine congrArg (p :: ·) (ih ordered.of_cons ordered'.of_cons fun other => ?_)
          have both := same other
          rw [under_cons, under_cons] at both
          by_cases own : p.1 = other
          · rw [if_pos own, if_pos own] at both
            exact (List.cons.inj both).2
          · rwa [if_neg own, if_neg own] at both

/-- Only one list has the fields in the order of their keys. -/
theorem InKeyOrder.unique (order : InKeyOrder fields sorted) (order' : InKeyOrder fields sorted') :
    sorted = sorted' :=
  order.ordered.eq_of_under order'.ordered fun key =>
    (order.stable key).trans (order'.stable key).symm

/-- Two lists are sorted alike exactly when they have the same fields with each key. -/
theorem sortFields_eq_iff :
    sortFields fields = sortFields fields' ↔ ∀ key, under key fields = under key fields' := by
  have order := inKeyOrder_sortFields fields
  have order' := inKeyOrder_sortFields fields'
  constructor
  · intro same key
    rw [← order.stable, ← order'.stable, same]
  · intro same
    refine order.ordered.eq_of_under order'.ordered fun key => ?_
    rw [order.stable, order'.stable, same]

/-- Fields with pairwise different keys are sorted alike in whatever order they are given. -/
theorem under_eq_of_perm (perm : fields'.Perm fields) (distinct : (fields.map (·.1)).Nodup)
    (key : String) : under key fields' = under key fields := by
  have any (l : List (String × String)) : l.Pairwise fun _ _ => True :=
    List.pairwise_of_forall fun _ _ => trivial
  refine List.Perm.eq_of_pairwise (fun p q hp hq _ _ => ?_) (any _) (any _) (perm.filter _)
  obtain ⟨mem, own⟩ := mem_under.1 hp
  obtain ⟨mem', own'⟩ := mem_under.1 hq
  exact List.inj_on_of_nodup_map distinct (perm.subset mem) mem' (own.trans own'.symm)

/-! ### Lines -/

theorem exactMembers_texts (fields : List (String × String)) :
    Json.ExactMembers (fields.map fun p => (p.1, .string p.2)) := by
  induction fields with
  | nil => trivial
  | cons p rest ih => exact ⟨trivial, ih⟩

theorem depthMembers_texts (fields : List (String × String)) :
    Json.depthMembers (fields.map fun p => (p.1, .string p.2)) = 0 := by
  induction fields with
  | nil => rfl
  | cons p rest ih => exact (Nat.zero_max _).trans ih

theorem exact_toJson (severity : Severity) (event : String) (fields : List (String × String)) :
    (toJson severity event fields).Exact :=
  ⟨trivial, trivial, exactMembers_texts _⟩

theorem depth_toJson (severity : Severity) (event : String) (fields : List (String × String)) :
    (toJson severity event fields).depth ≤ Json.depthLimit := by
  simp only [toJson, Json.depth, Json.depthMembers, depthMembers_texts]
  decide

/-- A line is an object in one piece and a newline, and the object reads back. -/
theorem render_line (severity : Severity) (event : String) (fields : List (String × String)) :
    ∃ line, render severity event fields = line ++ "\n" ∧ '\n' ∉ line.toList ∧
      Json.read? line = some (toJson severity event fields) := by
  have exact := exact_toJson severity event fields
  refine ⟨_, rfl, ?_, ?_⟩
  · rw [Json.print, String.toList_ofList]
    exact (Json.visible_printChars _ exact).oneLine
  · rw [Json.read?_print exact, if_pos (depth_toJson severity event fields)]

theorem name_inj {severity severity' : Severity} (same : severity.name = severity'.name) :
    severity = severity' := by
  cases severity <;> cases severity' <;> first | rfl | exact absurd same (by decide)

/-- Two lines are the same exactly when severity, event and the fields with each key are. -/
theorem render_eq_iff {severity severity' : Severity} {event event' : String} :
    render severity event fields = render severity' event' fields' ↔
      severity = severity' ∧ event = event' ∧ ∀ key, under key fields = under key fields' := by
  rw [← sortFields_eq_iff]
  constructor
  · intro same
    have object := Json.print_inj (exact_toJson _ _ _) (depth_toJson _ _ _) (exact_toJson _ _ _)
      (depth_toJson _ _ _) ((String.append_left_inj _).1 same)
    simp only [toJson, Json.object.injEq, List.cons.injEq, Prod.mk.injEq, Json.string.injEq,
      true_and] at object
    refine ⟨name_inj object.2.1, object.1, ?_⟩
    have texts : Function.Injective fun p : String × String => (p.1, Json.string p.2) := by
      rintro ⟨k, x⟩ ⟨l, y⟩ same
      cases same
      rfl
    exact texts.list_map object.2.2
  · rintro ⟨rfl, rfl, same⟩
    rw [render, render, toJson, toJson, same]

/-- For all texts: a line ends with its only newline, and before it stands an object that reads back
as the event, the severity and the fields in the order of their keys. When the keys are pairwise
different, the order in which the fields are given does not matter. -/
theorem render_exact (severity : Severity) (event : String) (fields : List (String × String)) :
    (∃ line sorted, render severity event fields = line ++ "\n" ∧ '\n' ∉ line.toList ∧
      InKeyOrder fields sorted ∧
      Json.read? line = some (.object (("event", .string event) ::
        ("severity", .string severity.name) :: sorted.map fun p => (p.1, .string p.2)))) ∧
    ((fields.map (·.1)).Nodup → ∀ fields', fields'.Perm fields →
      render severity event fields' = render severity event fields) := by
  obtain ⟨line, ends, oneLine, read⟩ := render_line severity event fields
  refine ⟨⟨line, _, ends, oneLine, inKeyOrder_sortFields fields, read⟩, ?_⟩
  intro distinct fields' perm
  exact render_eq_iff.2 ⟨rfl, rfl, under_eq_of_perm perm distinct⟩

/-- Quotes, line breaks and control characters stay inside the line, in either order of the fields. -/
theorem render_exact_statement :
    (∃ line sorted,
      render .trace "E\"\n" [("statement", "SELECT \"pk\"\r\n"), ("\x01", "\\\x00")] =
        line ++ "\n" ∧ '\n' ∉ line.toList ∧
      InKeyOrder [("statement", "SELECT \"pk\"\r\n"), ("\x01", "\\\x00")] sorted ∧
      Json.read? line = some (.object (("event", .string "E\"\n") ::
        ("severity", .string "TRACE") :: sorted.map fun p => (p.1, .string p.2)))) ∧
    render .trace "E\"\n" [("\x01", "\\\x00"), ("statement", "SELECT \"pk\"\r\n")] =
      render .trace "E\"\n" [("statement", "SELECT \"pk\"\r\n"), ("\x01", "\\\x00")] := by
  obtain ⟨reads, alike⟩ := render_exact .trace "E\"\n"
    [("statement", "SELECT \"pk\"\r\n"), ("\x01", "\\\x00")]
  exact ⟨reads, alike (by decide) _ (List.Perm.swap _ _ _)⟩

/-- Fields with equal keys keep their order. -/
example : render .info "E" [("b", "1"), ("a", "2"), ("b", "0")] =
    "\x7b\"event\":\"E\",\"severity\":\"INFO\",\"a\":\"2\",\"b\":\"1\",\"b\":\"0\"\x7d\n" := by
  cbv

end Keyscan.Log
