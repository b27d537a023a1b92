import AgentOperator.Keyed
import Mathlib.Data.List.Perm.Subperm

/-!
AgentOperator.Proofs.NamedLists — lists into which entries are written by
name.

Volumes of a pod and mounts of a container are brought to a plan in one way:
a list that has not as many elements as the plan is dropped, and then every
entry of the plan is written, each to the first element of its name or to a new
one at the end. `settle` is that step. Doing it again changes nothing unless
the list was *stray* (`settle_settle_iff`): as long as the plan, with one of
its names missing. Of a stray list nothing is dropped the first time, so the
missing entries make it too long, and the second time all of it is dropped.
-/

namespace AgentOperator.Keyed

variable {α : Type u}

/-! ## Rearrangements -/

/-- A list with as many elements as are wanted, all wanted ones among them, is a
rearrangement of these if none is wanted twice. -/
theorem length_and_subset_iff_perm {xs wanted : List α} (h : wanted.Nodup) :
    xs.length = wanted.length ∧ wanted ⊆ xs ↔ xs.Perm wanted :=
  ⟨fun ⟨hlen, hsub⟩ => ((h.subperm hsub).perm_of_length_le (Nat.le_of_eq hlen)).symm,
    fun hperm => ⟨hperm.length_eq, hperm.symm.subset⟩⟩

/-- The same, as it is tested. -/
theorem passes_iff_perm [BEq α] [LawfulBEq α] {xs wanted : List α} (h : wanted.Nodup) :
    (decide (xs.length = wanted.length) && wanted.all fun x => xs.contains x) = true
      ↔ xs.Perm wanted := by
  rw [← length_and_subset_iff_perm h]
  simp only [Bool.and_eq_true, decide_eq_true_eq, List.all_eq_true, List.contains_iff_mem]
  exact Iff.rfl

/-! ## The elements that pass a test -/

section

variable {test : α → Bool} {fresh : α} {change : α → α}

/-- Of the elements that pass the test, the first is changed. -/
theorem filter_upsert (hfresh : test (change fresh) = true)
    (hchange : ∀ x, test x = true → test (change x) = true) (xs : List α) :
    (upsert test fresh change xs).filter test
      = change ((xs.find? test).getD fresh) :: (xs.filter test).tail := by
  induction xs with
  | nil => simp [upsert, hfresh]
  | cons x xs ih =>
    by_cases hx : test x = true
    · simp [upsert, hx, hchange x hx]
    · simpa [upsert, hx] using ih

/-- All others stay, in their order. -/
theorem filter_not_upsert (hfresh : test (change fresh) = true)
    (hchange : ∀ x, test x = true → test (change x) = true) (xs : List α) :
    ((upsert test fresh change xs).filter fun x => !test x) = xs.filter fun x => !test x := by
  induction xs with
  | nil => simp [upsert, hfresh]
  | cons x xs ih =>
    by_cases hx : test x = true
    · simp [upsert, hx, hchange x hx]
    · simpa [upsert, hx] using ih

end

/-! ## Entries -/

/-- How the elements of a list are named, and the element of a name that holds
nothing else. -/
structure Naming (α : Type u) where
  key : α → String
  fresh : String → α
  key_fresh : ∀ name, key (fresh name) = name

/-- What the element of a name is to be changed to. The change keeps the name
and does nothing the second time. -/
structure Entry (N : Naming α) where
  name : String
  change : α → α
  key_change : ∀ x, N.key (change x) = N.key x
  change_change : ∀ x, change (change x) = change x

variable {N : Naming α}

/-- Whether an element has a name. -/
def Naming.test (N : Naming α) (name : String) (x : α) : Bool := decide (N.key x = name)

/-- The names along a list. -/
def Naming.names (N : Naming α) (xs : List α) : List String := xs.map N.key

/-- Writes one entry. -/
def Entry.write (e : Entry N) (xs : List α) : List α :=
  upsert (N.test e.name) (N.fresh e.name) e.change xs

/-- Writes entries one after the other. -/
def writeAll (es : List (Entry N)) (xs : List α) : List α :=
  es.foldl (fun xs e => e.write xs) xs

/-- Drops a list that has not as many elements as there are entries, and writes
the entries. -/
def settle (es : List (Entry N)) (xs : List α) : List α :=
  writeAll es (if xs.length = es.length then xs else [])

/-- As long as the wanted names are many, with one of them missing. -/
def Naming.Stray (N : Naming α) (wanted : List String) (xs : List α) : Prop :=
  xs.length = wanted.length ∧ ∃ name ∈ wanted, name ∉ N.names xs

instance (wanted : List String) (xs : List α) : Decidable (N.Stray wanted xs) :=
  inferInstanceAs (Decidable (_ ∧ ∃ name ∈ wanted, name ∉ N.names xs))

@[simp] theorem Naming.test_iff {name : String} {x : α} :
    N.test name x = true ↔ N.key x = name := by
  simp [test]

theorem Naming.mem_names_iff {name : String} {xs : List α} :
    name ∈ N.names xs ↔ ∃ x ∈ xs, N.key x = name := by
  simp [names]

/-! ## One entry -/

namespace Entry

/-- A written entry adds its name, at the end, only if it was missing. -/
theorem names_write (e : Entry N) (xs : List α) :
    N.names (e.write xs) = if e.name ∈ N.names xs then N.names xs else N.names xs ++ [e.name] := by
  induction xs with
  | nil => simp [write, upsert, Naming.names, e.key_change, N.key_fresh]
  | cons x xs ih =>
    simp only [write, Naming.names, upsert, List.map_cons, List.mem_cons] at ih ⊢
    by_cases hx : N.key x = e.name
    · simp [Naming.test, hx, e.key_change]
    · have hx' : ¬ e.name = N.key x := fun h => hx h.symm
      simp only [Naming.test, decide_eq_true_eq, if_neg hx, List.map_cons, hx', false_or] at ih ⊢
      rw [ih]
      by_cases hmem : e.name ∈ xs.map N.key <;> simp [hmem]

theorem mem_names_write (e : Entry N) (xs : List α) (name : String) :
    name ∈ N.names (e.write xs) ↔ name = e.name ∨ name ∈ N.names xs := by
  rw [names_write]
  split
  · rename_i h
    exact ⟨.inr, fun h' => h'.elim (fun heq => heq ▸ h) id⟩
  · simp [or_comm]

/-- The element an entry was written to. -/
theorem find?_write_self (e : Entry N) (xs : List α) :
    (e.write xs).find? (N.test e.name)
      = some (e.change ((xs.find? (N.test e.name)).getD (N.fresh e.name))) := by
  induction xs with
  | nil => simp [write, upsert, Naming.test, e.key_change, N.key_fresh]
  | cons x xs ih =>
    by_cases hx : N.key x = e.name
    · simp [write, upsert, Naming.test, hx, e.key_change]
    · simp only [write, upsert, Naming.test, decide_eq_true_eq, if_neg hx] at ih ⊢
      simpa [hx] using ih

/-- Elements of other names are found as before. -/
theorem find?_write_of_ne (e : Entry N) (xs : List α) {name : String} (h : name ≠ e.name) :
    (e.write xs).find? (N.test name) = xs.find? (N.test name) := by
  have hn : ¬ e.name = name := fun heq => h heq.symm
  induction xs with
  | nil => simp [write, upsert, Naming.test, e.key_change, N.key_fresh, hn]
  | cons x xs ih =>
    by_cases hx : N.key x = e.name
    · simp [write, upsert, Naming.test, hx, e.key_change, hn]
    · simp only [write, upsert, Naming.test, decide_eq_true_eq, if_neg hx] at ih ⊢
      simp only [List.find?_cons, ih]

/-- What an entry is written to has its name. -/
theorem test_change (e : Entry N) {x : α} (h : N.test e.name x = true) :
    N.test e.name (e.change x) = true := by
  rw [Naming.test_iff] at h ⊢
  rw [e.key_change, h]

theorem test_change_fresh (e : Entry N) : N.test e.name (e.change (N.fresh e.name)) = true :=
  e.test_change (Naming.test_iff.2 (N.key_fresh e.name))

/-- The elements of its name: the first of them is changed. -/
theorem filter_write (e : Entry N) (xs : List α) :
    (e.write xs).filter (N.test e.name)
      = e.change ((xs.find? (N.test e.name)).getD (N.fresh e.name))
          :: (xs.filter (N.test e.name)).tail :=
  filter_upsert e.test_change_fresh (fun _ => e.test_change) xs

/-- The elements of other names stay, in their order. -/
theorem filter_not_write (e : Entry N) (xs : List α) :
    ((e.write xs).filter fun x => !N.test e.name x) = xs.filter fun x => !N.test e.name x :=
  filter_not_upsert e.test_change_fresh (fun _ => e.test_change) xs

/-- Writing an entry changes nothing exactly when the element it would be
written to is there and as it should be. -/
theorem write_eq_self_iff (e : Entry N) (xs : List α) :
    e.write xs = xs ↔ ∃ x, xs.find? (N.test e.name) = some x ∧ e.change x = x := by
  induction xs with
  | nil => simp [write, upsert]
  | cons x xs ih =>
    by_cases hx : N.key x = e.name
    · simp [write, upsert, Naming.test, hx]
    · simp only [write, upsert, Naming.test, decide_eq_true_eq, if_neg hx, List.cons.injEq,
        true_and] at ih ⊢
      simpa [List.find?_cons, hx] using ih

/-- An entry is settled by writing it. -/
theorem write_write (e : Entry N) (xs : List α) : e.write (e.write xs) = e.write xs :=
  (e.write_eq_self_iff _).2 ⟨_, e.find?_write_self xs, e.change_change _⟩

/-- An entry that is settled stays so when one of another name is written. -/
theorem write_eq_self_write {e d : Entry N} {xs : List α} (hne : e.name ≠ d.name)
    (h : e.write xs = xs) : e.write (d.write xs) = d.write xs := by
  rw [write_eq_self_iff] at h ⊢
  rwa [d.find?_write_of_ne xs hne]

end Entry

/-! ## All entries -/

theorem mem_names_writeAll (es : List (Entry N)) (xs : List α) (name : String) :
    name ∈ N.names (writeAll es xs) ↔ name ∈ es.map (·.name) ∨ name ∈ N.names xs := by
  induction es generalizing xs with
  | nil => simp [writeAll]
  | cons e es ih =>
    have := ih (e.write xs)
    simp only [writeAll, List.foldl_cons, List.map_cons, List.mem_cons] at this ⊢
    rw [this, e.mem_names_write]
    exact ⟨fun h => by grind, fun h => by grind⟩

/-- Entries of other names do not unsettle a settled one. -/
theorem Entry.write_eq_self_writeAll {e : Entry N} {es : List (Entry N)} {xs : List α}
    (hne : e.name ∉ es.map (·.name)) (h : e.write xs = xs) :
    e.write (writeAll es xs) = writeAll es xs := by
  induction es generalizing xs with
  | nil => exact h
  | cons d es ih =>
    simp only [List.map_cons, List.mem_cons, not_or] at hne
    exact ih hne.2 (Entry.write_eq_self_write hne.1 h)

/-- After entries of different names have been written, each of them is
settled. -/
theorem write_writeAll {es : List (Entry N)} (hes : (es.map (·.name)).Nodup) (xs : List α) :
    ∀ e ∈ es, e.write (writeAll es xs) = writeAll es xs := by
  induction es generalizing xs with
  | nil => simp
  | cons d es ih =>
    simp only [List.map_cons, List.nodup_cons] at hes
    intro e he
    rcases List.mem_cons.1 he with heq | he
    · subst heq
      have hkept := Entry.write_eq_self_writeAll hes.1 (e.write_write xs)
      exact hkept
    · exact ih hes.2 (d.write xs) e he

theorem writeAll_eq_self {es : List (Entry N)} {xs : List α} (h : ∀ e ∈ es, e.write xs = xs) :
    writeAll es xs = xs := by
  induction es with
  | nil => rfl
  | cons e es ih =>
    simp only [writeAll, List.foldl_cons]
    rw [h e (List.mem_cons_self ..)]
    exact ih fun d hd => h d (List.mem_cons_of_mem _ hd)

/-- Entries of different names are settled by writing them all. -/
theorem writeAll_writeAll {es : List (Entry N)} (hes : (es.map (·.name)).Nodup) (xs : List α) :
    writeAll es (writeAll es xs) = writeAll es xs :=
  writeAll_eq_self (write_writeAll hes xs)

/-- The names of a written list: first those it had, then the missing ones in
order. -/
theorem names_writeAll {es : List (Entry N)} (hes : (es.map (·.name)).Nodup) (xs : List α) :
    N.names (writeAll es xs)
      = N.names xs ++ (es.map (·.name)).filter fun name => decide (name ∉ N.names xs) := by
  induction es generalizing xs with
  | nil => simp [writeAll]
  | cons e es ih =>
    simp only [List.map_cons, List.nodup_cons] at hes
    have hrest := ih hes.2 (e.write xs)
    have hsame : ((es.map (·.name)).filter fun name => decide (name ∉ N.names (e.write xs)))
        = (es.map (·.name)).filter fun name => decide (name ∉ N.names xs) := by
      refine List.filter_congr fun name hname => ?_
      have hne : name ≠ e.name := fun h => hes.1 (h ▸ hname)
      simp [e.mem_names_write, hne]
    rw [hsame, e.names_write] at hrest
    simp only [writeAll, List.foldl_cons, List.map_cons] at hrest ⊢
    rw [hrest]
    by_cases h : e.name ∈ N.names xs <;> simp [h]

theorem names_writeAll_nil {es : List (Entry N)} (hes : (es.map (·.name)).Nodup) :
    N.names (writeAll es []) = es.map (·.name) := by
  rw [names_writeAll hes, List.filter_eq_self.2 (by simp [Naming.names])]
  rfl

theorem find?_writeAll_of_not_mem {es : List (Entry N)} {name : String}
    (h : name ∉ es.map (·.name)) (xs : List α) :
    (writeAll es xs).find? (N.test name) = xs.find? (N.test name) := by
  induction es generalizing xs with
  | nil => rfl
  | cons d es ih =>
    simp only [List.map_cons, List.mem_cons, not_or] at h
    exact (ih h.2 (d.write xs)).trans (d.find?_write_of_ne xs h.1)

/-- Of entries of different names each changes what was found by its name. -/
theorem find?_writeAll {es : List (Entry N)} (hes : (es.map (·.name)).Nodup) {e : Entry N}
    (he : e ∈ es) (xs : List α) :
    (writeAll es xs).find? (N.test e.name)
      = some (e.change ((xs.find? (N.test e.name)).getD (N.fresh e.name))) := by
  induction es generalizing xs with
  | nil => cases he
  | cons d es ih =>
    simp only [List.map_cons, List.nodup_cons] at hes
    rcases List.mem_cons.1 he with rfl | he
    · exact (find?_writeAll_of_not_mem hes.1 _).trans (e.find?_write_self xs)
    · have hne : e.name ≠ d.name := fun h => hes.1 (h ▸ List.mem_map_of_mem he)
      have hrest := ih hes.2 he (d.write xs)
      rwa [d.find?_write_of_ne xs hne] at hrest

theorem length_names (xs : List α) : (N.names xs).length = xs.length := List.length_map ..

/-! ## Settling a list -/

theorem settle_of_length {es : List (Entry N)} {xs : List α} (h : xs.length = es.length) :
    settle es xs = writeAll es xs := by
  rw [settle, if_pos h]

theorem settle_of_length_ne {es : List (Entry N)} {xs : List α} (h : xs.length ≠ es.length) :
    settle es xs = writeAll es [] := by
  rw [settle, if_neg h]

theorem settle_settle_of_length {es : List (Entry N)} (hes : (es.map (·.name)).Nodup)
    {xs : List α} (h : (settle es xs).length = es.length) :
    settle es (settle es xs) = settle es xs := by
  rw [settle_of_length h]
  exact writeAll_writeAll hes _

/-- A list that is not stray is settled to one that is as long as the plan. -/
theorem length_settle {es : List (Entry N)} (hes : (es.map (·.name)).Nodup) {xs : List α}
    (h : ¬ N.Stray (es.map (·.name)) xs) : (settle es xs).length = es.length := by
  rw [← length_names (N := N), settle]
  split
  · rename_i hlen
    have hall : ∀ name ∈ es.map (·.name), name ∈ N.names xs := by
      intro name hname
      exact Decidable.byContradiction fun hno => h ⟨by simpa using hlen, name, hname, hno⟩
    have hnone : (es.map (·.name)).filter (fun name => decide (name ∉ N.names xs)) = [] := by
      rw [List.filter_eq_nil_iff]
      intro name hname
      simp [hall name hname]
    rw [names_writeAll hes, hnone, List.append_nil, length_names, hlen]
  · rw [names_writeAll_nil hes, List.length_map]

/-- A stray list is settled to one that is too long. -/
theorem length_settle_of_stray {es : List (Entry N)} (hes : (es.map (·.name)).Nodup)
    {xs : List α} (h : N.Stray (es.map (·.name)) xs) : es.length < (settle es xs).length := by
  obtain ⟨hlen, name, hname, hno⟩ := h
  rw [List.length_map] at hlen
  have hmem : name ∈ (es.map (·.name)).filter fun name => decide (name ∉ N.names xs) :=
    List.mem_filter.2 ⟨hname, by simpa using hno⟩
  have hpos := List.length_pos_of_mem hmem
  rw [settle, if_pos hlen, ← length_names (N := N), names_writeAll hes, List.length_append,
    length_names, hlen]
  omega

/-- Settling a list a second time changes nothing exactly when the list was not
stray. -/
theorem settle_settle_iff (es : List (Entry N)) (hes : (es.map (·.name)).Nodup) (xs : List α) :
    settle es (settle es xs) = settle es xs ↔ ¬ N.Stray (es.map (·.name)) xs := by
  constructor
  · intro h hstray
    have hlong := length_settle_of_stray hes hstray
    have hagain : settle es (settle es xs) = writeAll es [] :=
      settle_of_length_ne (Nat.ne_of_gt hlong)
    have hlen : (writeAll es ([] : List α)).length = es.length := by
      rw [← length_names (N := N), names_writeAll_nil hes, List.length_map]
    rw [← h, hagain] at hlong
    omega
  · intro h
    exact settle_settle_of_length hes (length_settle hes h)

/-- Every name of the plan is in a settled list. -/
theorem mem_names_settle (es : List (Entry N)) (xs : List α) :
    ∀ name ∈ es.map (·.name), name ∈ N.names (settle es xs) := by
  intro name hname
  rw [settle, mem_names_writeAll]
  exact .inl hname

/-- A list settled for one plan is not stray for another of the same names. -/
theorem not_stray_settle (es : List (Entry N)) (xs : List α) :
    ¬ N.Stray (es.map (·.name)) (settle es xs) :=
  fun ⟨_, name, hname, hno⟩ => hno (mem_names_settle es xs name hname)

/-- Of plans that have the same names as soon as they are as long, a list that
was not stray is settled for one to a list that is not stray for another. -/
theorem not_stray_settle_of_length {es : List (Entry N)} (hes : (es.map (·.name)).Nodup)
    {wanted : List String} (hsame : wanted.length = es.length → wanted = es.map (·.name))
    {xs : List α} (h : ¬ N.Stray (es.map (·.name)) xs) : ¬ N.Stray wanted (settle es xs) := by
  rintro ⟨hlen, name, hname, hno⟩
  rw [length_settle hes h] at hlen
  rw [hsame hlen.symm] at hname
  exact hno (mem_names_settle es xs name hname)

/-- Where there is nothing, nothing is stray. -/
theorem not_stray_nil (wanted : List String) : ¬ N.Stray wanted [] := by
  rintro ⟨hlen, name, hname, -⟩
  rw [List.eq_nil_of_length_eq_zero hlen.symm] at hname
  cases hname

/-! ### What holds of every element -/

theorem Entry.forall_mem_write {P : α → Prop} {e : Entry N} (hfresh : P (N.fresh e.name))
    (hchange : ∀ x, P x → P (e.change x)) {xs : List α} (h : ∀ x ∈ xs, P x) :
    ∀ x ∈ e.write xs, P x := by
  induction xs with
  | nil =>
    intro x hx
    rw [List.mem_singleton.1 hx]
    exact hchange _ hfresh
  | cons y ys ih =>
    obtain ⟨hy, hys⟩ := List.forall_mem_cons.1 h
    intro x hx
    by_cases hkey : N.test e.name y = true
    · simp only [write, upsert, hkey, if_true, List.mem_cons] at hx
      rcases hx with rfl | hx
      · exact hchange y hy
      · exact hys x hx
    · simp only [write, upsert, hkey, Bool.false_eq_true, if_false, List.mem_cons] at hx
      rcases hx with rfl | hx
      · exact hy
      · exact ih hys x hx

/-- What holds of fresh elements and survives every change holds of a settled
list if it held of the list. -/
theorem forall_mem_settle {P : α → Prop} {es : List (Entry N)} (hfresh : ∀ name, P (N.fresh name))
    (hchange : ∀ e ∈ es, ∀ x, P x → P (e.change x)) {xs : List α} (h : ∀ x ∈ xs, P x) :
    ∀ x ∈ settle es xs, P x := by
  have hall : ∀ ys : List α, (∀ y ∈ ys, P y) → ∀ x ∈ writeAll es ys, P x := by
    induction es with
    | nil => exact fun ys hys => hys
    | cons e es ih =>
      intro ys hys
      refine ih (fun d hd => hchange d (List.mem_cons_of_mem _ hd)) (e.write ys) ?_
      exact Entry.forall_mem_write (hfresh e.name) (hchange e (List.mem_cons_self ..)) hys
  unfold settle
  split
  · exact hall xs h
  · exact hall [] nofun

/-! ## Changing elements in place -/

/-- A change that keeps the names of what it changes. -/
def Naming.Keeps (N : Naming α) (change : α → α) : Prop := ∀ x, N.key (change x) = N.key x

theorem names_modify {change : α → α} (h : N.Keeps change) (name : String) (xs : List α) :
    N.names (modify (N.test name) change xs) = N.names xs := by
  induction xs with
  | nil => rfl
  | cons x xs ih =>
    by_cases hx : N.test name x <;> simp only [modify, hx, if_true, Naming.names, List.map_cons,
      h x, Bool.false_eq_true, if_false, List.cons.injEq, true_and]
    exact ih

/-- Where no two elements have one name, the first element of a name is the only
one. -/
theorem modify_eq_map {xs : List α} (h : (N.names xs).Nodup) (name : String) (f : α → α) :
    modify (N.test name) f xs = xs.map fun x => if N.key x = name then f x else x := by
  induction xs with
  | nil => rfl
  | cons x xs ih =>
    obtain ⟨hx, hxs⟩ := List.nodup_cons.1 h
    by_cases hkey : N.key x = name
    · have hsame : (xs.map fun y => if N.key y = name then f y else y) = xs.map id := by
        refine List.map_congr_left fun y hy => if_neg fun hy' => ?_
        exact hx (Naming.mem_names_iff.2 ⟨y, hy, hy'.trans hkey.symm⟩)
      simp [modify, Naming.test, hkey, hsame]
    · simp [modify, Naming.test, hkey, ← ih hxs]

/-- Changes of elements of different names do not see each other. -/
theorem modify_modify_comm {f g : α → α} (hf : N.Keeps f) (hg : N.Keeps g) {a b : String}
    (hne : a ≠ b) (xs : List α) :
    modify (N.test a) f (modify (N.test b) g xs) = modify (N.test b) g (modify (N.test a) f xs) := by
  induction xs with
  | nil => rfl
  | cons x xs ih =>
    by_cases ha : N.key x = a
    · have hb : ¬ N.key x = b := fun h => hne (ha.symm.trans h)
      simp [modify, Naming.test, ha, hf x, hne]
    · by_cases hb : N.key x = b
      · have hba : ¬ b = a := fun h => hne h.symm
        simp [modify, Naming.test, hb, hg x, hba]
      · simp only [modify, Naming.test, ha, hb, decide_false, Bool.false_eq_true, if_false,
          List.cons.injEq, true_and]
        exact ih

/-- The element changed first is the one changed again. -/
theorem modify_modify {f g : α → α} (hf : N.Keeps f) (name : String) (xs : List α) :
    modify (N.test name) g (modify (N.test name) f xs) = modify (N.test name) (g ∘ f) xs := by
  induction xs with
  | nil => rfl
  | cons x xs ih =>
    by_cases hx : N.key x = name
    · simp [modify, Naming.test, hx, hf x]
    · simp only [modify, Naming.test, hx, decide_false, Bool.false_eq_true, if_false,
        List.cons.injEq, true_and]
      exact ih

theorem modify_eq_modify_iff {f g : α → α} (test : α → Bool) (xs : List α) :
    modify test f xs = modify test g xs ↔ ∀ x, xs.find? test = some x → f x = g x := by
  induction xs with
  | nil => simp [modify]
  | cons x xs ih =>
    by_cases hx : test x
    · simp [modify, hx]
    · simpa [modify, hx] using ih

/-- Elements of other names are found as they were. -/
theorem find?_modify_of_ne {f : α → α} (hf : N.Keeps f) {a b : String} (hne : a ≠ b)
    (xs : List α) : (modify (N.test b) f xs).find? (N.test a) = xs.find? (N.test a) := by
  induction xs with
  | nil => rfl
  | cons x xs ih =>
    by_cases hb : N.key x = b
    · have hba : ¬ b = a := fun h => hne h.symm
      simp [modify, Naming.test, hb, hf x, hba]
    · simp only [modify, Naming.test, hb, decide_false, Bool.false_eq_true, if_false,
        List.find?_cons]
      rw [← ih]

theorem mem_upsert {test : α → Bool} {fresh x : α} {xs : List α}
    (h : x ∈ upsert test fresh (fun _ => fresh) xs) : x ∈ xs ∨ x = fresh := by
  induction xs with
  | nil => exact .inr (List.mem_singleton.1 h)
  | cons y ys ih =>
    by_cases hy : test y
    · simp only [upsert, hy, if_true, List.mem_cons] at h
      rcases h with rfl | h
      · exact .inr rfl
      · exact .inl (List.mem_cons_of_mem _ h)
    · simp only [upsert, hy, Bool.false_eq_true, if_false, List.mem_cons] at h
      rcases h with rfl | h
      · exact .inl (List.mem_cons_self ..)
      · exact (ih h).imp_left (List.mem_cons_of_mem _)

theorem mem_modify {f : α → α} {test : α → Bool} {xs : List α} {y : α}
    (h : y ∈ modify test f xs) : y ∈ xs ∨ ∃ x ∈ xs, test x = true ∧ y = f x := by
  induction xs with
  | nil => simp [modify] at h
  | cons x xs ih =>
    by_cases hx : test x
    · simp only [modify, hx, if_true, List.mem_cons] at h
      rcases h with rfl | h
      · exact .inr ⟨x, List.mem_cons_self .., hx, rfl⟩
      · exact .inl (List.mem_cons_of_mem _ h)
    · simp only [modify, hx, Bool.false_eq_true, if_false, List.mem_cons] at h
      rcases h with rfl | h
      · exact .inl (List.mem_cons_self ..)
      · rcases ih h with h | ⟨z, hz, hzt, rfl⟩
        · exact .inl (List.mem_cons_of_mem _ h)
        · exact .inr ⟨z, List.mem_cons_of_mem _ hz, hzt, rfl⟩

end AgentOperator.Keyed
