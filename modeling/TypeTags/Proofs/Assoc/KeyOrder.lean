import TypeTags.Assoc

/-!
# The order of keys

An insertion-ordered map keeps every key where it was put first. So the keys after any number of
puts are the keys there were, followed by the new ones, each at its first occurrence: `joinKeys`.
Putting all pairs of one map into another is an associative operation on maps without double keys.

Results:
* `joinKeys_append`: keys that come in two portions are as good as those that come in one.
* `keys_put`, `keys_putAll`: the keys after puts.
* `get?_putAll`: what is found after the pairs of a map are put.
* `putAll_putAll`: putting maps is associative.
* `put_forall`, `putAll_forall`: what holds of all pairs put into a map holds of the pairs in it.
-/

namespace TypeTags.Assoc

variable {α β : Type}

/-! ## Keys and puts -/

theorem keys_map (f : String → α → β) (m : Assoc α) :
    keys (m.map fun (k, a) => (k, f k a)) = m.keys := by
  simp [keys, Function.comp_def]

theorem values_map (f : α → β) (m : Assoc α) :
    values (m.map fun (k, a) => (k, f a)) = m.values.map f := by
  simp [values, Function.comp_def]

theorem get?_map (f : String → α → β) (m : Assoc α) (key : String) :
    get? (m.map fun (k, a) => (k, f k a)) key = (m.get? key).map (f key) := by
  induction m with
  | nil => rfl
  | cons p m ih =>
    obtain ⟨k, a⟩ := p
    rw [List.map_cons, get?_cons, get?_cons, ih]
    by_cases h : key = k <;> simp [h]

theorem get?_eq_none_iff {m : Assoc α} {key : String} : m.get? key = none ↔ key ∉ m.keys := by
  induction m with
  | nil => simp [keys]
  | cons p m ih =>
    obtain ⟨k, v⟩ := p
    rw [get?_cons]
    by_cases h : key = k
    · simp [keys, h]
    · simpa [keys, h] using ih

theorem mem_keys_of_get? {m : Assoc α} {key : String} {a : α} (h : m.get? key = some a) :
    key ∈ m.keys := by
  refine Decidable.byContradiction fun hnot => ?_
  rw [get?_eq_none_iff.2 hnot] at h
  cases h

theorem put_of_not_mem {m : Assoc α} {key : String} (h : key ∉ m.keys) (a : α) :
    m.put key a = m ++ [(key, a)] := by
  induction m with
  | nil => rfl
  | cons p m ih =>
    obtain ⟨k, v⟩ := p
    simp only [keys, List.map_cons, List.mem_cons, not_or] at h
    rw [put, if_neg (Ne.symm h.1), ih h.2, List.cons_append]

theorem keys_put_of_mem {m : Assoc α} {key : String} (h : key ∈ m.keys) (a : α) :
    (m.put key a).keys = m.keys := by
  induction m with
  | nil => cases h
  | cons p m ih =>
    obtain ⟨k, v⟩ := p
    rw [put]
    split
    · rename_i hk
      simp [keys, hk]
    · rename_i hk
      have hm : key ∈ keys m := (List.mem_cons.1 h).resolve_left (Ne.symm hk)
      exact congrArg (k :: ·) (ih hm)

theorem putAll_cons (m : Assoc α) (p : String × α) (pairs : List (String × α)) :
    m.putAll (p :: pairs) = (m.put p.1 p.2).putAll pairs :=
  rfl

/-- Pairs with distinct keys stay as they are when they are put one after another. -/
theorem putAll_of_nodup {m pairs : Assoc α} (h : (keys (m ++ pairs)).Nodup) :
    m.putAll pairs = m ++ pairs := by
  induction pairs generalizing m with
  | nil => simp [putAll]
  | cons p pairs ih =>
    obtain ⟨k, v⟩ := p
    have hk : k ∉ m.keys := by
      intro hmem
      have hdisjoint := (List.nodup_append.1 (by simpa [keys] using h)).2.2
      exact hdisjoint k (by simpa [keys] using hmem) k (by simp) rfl
    rw [putAll_cons, put_of_not_mem hk, ih (by simpa using h), List.append_assoc, List.singleton_append]

section Forall

variable {P : String × α → Prop}

theorem put_forall {m : Assoc α} {key : String} {value : α} (hm : ∀ p ∈ m, P p)
    (hv : P (key, value)) : ∀ p ∈ m.put key value, P p := by
  induction m with
  | nil => simpa [put] using hv
  | cons entry rest ih =>
    obtain ⟨k, v⟩ := entry
    have hrest : ∀ p ∈ rest, P p := fun p hp => hm p (List.mem_cons_of_mem _ hp)
    unfold put
    split
    · exact List.forall_mem_cons.2 ⟨hv, hrest⟩
    · exact List.forall_mem_cons.2 ⟨hm _ List.mem_cons_self, ih hrest⟩

theorem putAll_forall {m : Assoc α} {pairs : List (String × α)} (hm : ∀ p ∈ m, P p)
    (hp : ∀ p ∈ pairs, P p) : ∀ p ∈ m.putAll pairs, P p := by
  induction pairs generalizing m with
  | nil => exact hm
  | cons entry pairs ih =>
    have hv := hp entry List.mem_cons_self
    exact ih (put_forall hm hv) fun p hq => hp p (List.mem_cons_of_mem _ hq)

end Forall

/-! ## The order of keys -/

/-- Keys with more keys behind them: each one that is new comes once, where it comes first. -/
def joinKeys (keys more : List String) : List String := keys ++ (more.removeAll keys).eraseDups

@[simp] theorem joinKeys_nil (keys : List String) : joinKeys keys [] = keys :=
  List.append_nil keys

theorem nil_joinKeys (more : List String) : joinKeys [] more = more.eraseDups := by
  have hnone : more.removeAll [] = more := List.filter_eq_self.2 fun _ _ => rfl
  rw [joinKeys, hnone, List.nil_append]

theorem joinKeys_of_mem {keys : List String} {key : String} (h : key ∈ keys) :
    joinKeys keys [key] = keys := by
  simp [joinKeys, List.removeAll, h]

theorem joinKeys_of_not_mem {keys : List String} {key : String} (h : key ∉ keys) :
    joinKeys keys [key] = keys ++ [key] := by
  simp [joinKeys, List.removeAll, h, List.eraseDups_cons]

theorem mem_joinKeys {keys more : List String} {key : String} :
    key ∈ joinKeys keys more ↔ key ∈ keys ∨ key ∈ more := by
  by_cases h : key ∈ keys <;> simp [joinKeys, List.removeAll, h]

theorem joinKeys_append (keys more further : List String) :
    joinKeys (joinKeys keys more) further = joinKeys keys (more ++ further) := by
  have hremove : further.removeAll (joinKeys keys more) =
      (further.removeAll keys).removeAll (more.removeAll keys) := by
    unfold List.removeAll
    rw [List.filter_filter]
    refine List.filter_congr fun key _ => ?_
    by_cases h : key ∈ keys <;> simp [joinKeys, List.removeAll, h]
  have hsplit : (more ++ further).removeAll keys =
      more.removeAll keys ++ further.removeAll keys := List.filter_append ..
  rw [joinKeys, hremove, joinKeys, joinKeys, hsplit, List.eraseDups_append, List.append_assoc]

theorem nodup_joinKeys {keys : List String} (h : keys.Nodup) (more : List String) :
    (joinKeys keys more).Nodup := by
  induction more generalizing keys with
  | nil => simpa using h
  | cons key more ih =>
    have hone : (joinKeys keys [key]).Nodup := by
      by_cases hk : key ∈ keys
      · rwa [joinKeys_of_mem hk]
      · rw [joinKeys_of_not_mem hk]
        refine List.nodup_append.2 ⟨h, by simp, fun k hm k' hk' => ?_⟩
        rw [List.mem_singleton.1 hk']
        exact fun e => hk (e ▸ hm)
    have hmore := ih hone
    rwa [joinKeys_append] at hmore

theorem keys_put (m : Assoc α) (key : String) (value : α) :
    (m.put key value).keys = joinKeys m.keys [key] := by
  by_cases h : key ∈ m.keys
  · rw [keys_put_of_mem h, joinKeys_of_mem h]
  · rw [put_of_not_mem h, joinKeys_of_not_mem h]
    simp [keys]

theorem keys_putAll (m pairs : Assoc α) : (m.putAll pairs).keys = joinKeys m.keys pairs.keys := by
  induction pairs generalizing m with
  | nil => simp [putAll, keys]
  | cons p pairs ih =>
    rw [putAll_cons, ih, keys_put, joinKeys_append]
    rfl

/-! ## Putting the pairs of a map -/

theorem get?_putAll {m pairs : Assoc α} (h : pairs.keys.Nodup) (key : String) :
    (m.putAll pairs).get? key = (pairs.get? key).or (m.get? key) := by
  induction pairs generalizing m with
  | nil => rfl
  | cons p pairs ih =>
    obtain ⟨k, v⟩ := p
    obtain ⟨hk, hrest⟩ := List.nodup_cons.1 h
    rw [putAll_cons, ih hrest, get?_put, get?_cons]
    by_cases hkey : key = k
    · subst hkey
      simp [get?_eq_none_iff.2 hk]
    · simp [hkey]

theorem put_put (m : Assoc α) (key : String) (value later : α) :
    (m.put key value).put key later = m.put key later := by
  induction m with
  | nil => simp [put]
  | cons p m ih =>
    obtain ⟨k, v⟩ := p
    by_cases hk : k = key <;> simp [put, hk, ih]

/-- A key that is there can be put before or after another one. -/
theorem put_comm {m : Assoc α} {key other : String} (h : key ∈ m.keys) (hne : key ≠ other)
    (value value' : α) :
    (m.put other value').put key value = (m.put key value).put other value' := by
  induction m with
  | nil => cases h
  | cons p m ih =>
    obtain ⟨k, v⟩ := p
    by_cases hk : k = key
    · subst hk
      simp [put, hne]
    · have hm : key ∈ keys m := (List.mem_cons.1 h).resolve_left (Ne.symm hk)
      by_cases ho : k = other
      · subst ho
        simp [put, hk]
      · simp [put, hk, ho, ih hm]

/-- A key that is there can be put before or after the pairs of a map without it. -/
theorem putAll_put_of_mem {m pairs : Assoc α} {key : String} (hm : key ∈ m.keys)
    (hp : key ∉ pairs.keys) (value : α) :
    (m.putAll pairs).put key value = (m.put key value).putAll pairs := by
  induction pairs generalizing m with
  | nil => rfl
  | cons p pairs ih =>
    obtain ⟨hk, hrest⟩ : key ≠ p.1 ∧ key ∉ keys pairs := by simpa [keys] using hp
    have hthere : key ∈ (m.put p.1 p.2).keys := by
      rw [keys_put, mem_joinKeys]
      exact Or.inl hm
    rw [putAll_cons, putAll_cons, ih hthere hrest, put_comm hm hk]

theorem putAll_put {pairs : Assoc α} (h : pairs.keys.Nodup) (m : Assoc α) (key : String)
    (value : α) : m.putAll (pairs.put key value) = (m.putAll pairs).put key value := by
  induction pairs generalizing m with
  | nil => rfl
  | cons p pairs ih =>
    obtain ⟨k, v⟩ := p
    obtain ⟨hk, hrest⟩ := List.nodup_cons.1 h
    by_cases hkey : k = key
    · subst hkey
      have hthere : k ∈ (m.put k v).keys := by
        rw [keys_put, mem_joinKeys]
        simp
      rw [put, if_pos rfl, putAll_cons, putAll_cons, putAll_put_of_mem hthere hk, put_put]
    · rw [put, if_neg hkey, putAll_cons, putAll_cons, ih hrest]

/-- Putting maps is associative, if the one in the middle has no key twice. -/
theorem putAll_putAll {middle : Assoc α} (h : middle.keys.Nodup) (m pairs : Assoc α) :
    (m.putAll middle).putAll pairs = m.putAll (middle.putAll pairs) := by
  induction pairs generalizing middle with
  | nil => rfl
  | cons p pairs ih =>
    have hnodup : (middle.put p.1 p.2).keys.Nodup := by
      rw [keys_put]
      exact nodup_joinKeys h _
    rw [putAll_cons, putAll_cons, ← ih hnodup, putAll_put h]

end TypeTags.Assoc
