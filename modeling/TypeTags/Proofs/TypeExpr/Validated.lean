import Mathlib.Data.List.Basic
import TypeTags.Proofs.TypeExpr.Nodes
import TypeTags.Schema.Types

/-!
# Types that pass the check

A JSON value that passes the check of types describes the type that comes out of it: every part is
there, no name is empty, no list of parts is empty, and a collection of keys and values has exactly
two arguments, at any depth. The check accepts no other value and refuses none of these. So a
checked type is well-formed, and it is described by the value that it is written as.

* `TypeExpr.Describes`: the JSON values that describe a type.

Results:
* `Checked.someTuple_eq_ok`: what the check of a tuple accepts.
* `check_eq_ok`: the check accepts exactly the values that describe a type.
* `WellFormed.describes_toJson`: a well-formed type is described by what it is written as.
* `check_shown`: a type that passed the check can be shown at every node, and passes again.
-/

namespace TypeTags

/-! ## Checks that are passed -/

namespace Checked

variable {α β : Type}

theorem map_eq_ok {f : α → β} {c : Checked α} {b : β} :
    f <$> c = ok b ↔ ∃ a, c = ok a ∧ f a = b := by
  constructor
  · intro h
    cases c with
    | ok a => exact ⟨a, rfl, ok.inj h⟩
    | bad flaws => cases h
  · intro h
    obtain ⟨a, rfl, rfl⟩ := h
    rfl

theorem seq_eq_ok {f : Checked (α → β)} {c : Checked α} {b : β} :
    f <*> c = ok b ↔ ∃ g a, f = ok g ∧ c = ok a ∧ g a = b := by
  constructor
  · intro h
    cases f with
    | ok g =>
      cases c with
      | ok a => exact ⟨g, a, rfl, rfl, ok.inj h⟩
      | bad flaws => cases h
    | bad flaws => cases c <;> cases h
  · intro h
    obtain ⟨g, a, rfl, rfl, rfl⟩ := h
    rfl

theorem under_eq_ok {step : String} {c : Checked α} {a : α} : c.under step = ok a ↔ c = ok a := by
  cases c <;> simp [under]

theorem andThen_eq_ok {c : Checked α} {f : α → Checked β} {b : β} :
    c.andThen f = ok b ↔ ∃ a, c = ok a ∧ f a = ok b := by
  cases c <;> simp [andThen]

theorem flawed_ne_ok (cause : FlawCause) (a : α) : flawed cause ≠ ok a := by
  intro h
  cases h

theorem field_eq_ok {members : Assoc Json} {key : String} {check : Json → Checked α} {a : α} :
    field members key check = ok a ↔ ∃ v, Assoc.get? members key = some v ∧ check v = ok a := by
  unfold field
  cases Assoc.get? members key with
  | none => simp [under_eq_ok, flawed_ne_ok]
  | some v => simp [under_eq_ok]

theorem nonEmpty_eq_ok {v : Json} {s : String} :
    nonEmpty v = ok s ↔ v = .string s ∧ s ≠ "" := by
  unfold nonEmpty
  rw [andThen_eq_ok]
  constructor
  · intro h
    obtain ⟨text, hs, he⟩ := h
    split at he
    · cases he
    · rename_i hne
      obtain rfl := ok.inj he
      cases v with
      | string w =>
        obtain rfl := ok.inj hs
        exact ⟨rfl, by simpa using hne⟩
      | _ => cases hs
  · intro h
    obtain ⟨rfl, hne⟩ := h
    exact ⟨s, rfl, by simp [hne]⟩

/-- All answers are passed, each with the value at its place. -/
theorem gather_eq_ok {index : Nat} {answers : List (Checked α)} {as : List α} :
    gather index answers = ok as ↔ answers = as.map ok := by
  induction answers generalizing index as with
  | nil => cases as <;> simp [gather]
  | cons answer answers ih =>
    rw [gather, seq_eq_ok]
    constructor
    · intro h
      obtain ⟨g, rest, hg, hrest, rfl⟩ := h
      obtain ⟨a, ha, rfl⟩ := map_eq_ok.1 hg
      rw [under_eq_ok.1 ha, ih.1 hrest, List.map_cons]
    · intro h
      cases as with
      | nil => cases h
      | cons a rest =>
        obtain ⟨rfl, hrest⟩ := List.cons.inj h
        exact ⟨List.cons a, rest, rfl, ih.2 hrest, rfl⟩

theorem map_eq_map_ok {check : Json → Checked α} {vs : List Json} {as : List α} :
    vs.map check = as.map ok ↔
      vs.length = as.length ∧ ∀ p ∈ vs.zip as, check p.1 = ok p.2 := by
  induction vs generalizing as with
  | nil => cases as <;> simp
  | cons v vs ih =>
    cases as with
    | nil => simp
    | cons a as => simp [ih, and_left_comm]

/-- A tuple passes if it has items and each of them passes. -/
theorem someTuple_eq_ok {check : Json → Checked α} {v : Json} {as : List α} :
    someTuple check v = ok as ↔ ∃ vs, v = .array vs ∧ as ≠ [] ∧ vs.length = as.length ∧
      ∀ p ∈ vs.zip as, check p.1 = ok p.2 := by
  constructor
  · intro h
    cases v with
    | array vs =>
      simp only [someTuple] at h
      split at h
      · rename_i hany
        have hall := gather_eq_ok.1 h
        refine ⟨vs, rfl, ?_, map_eq_map_ok.1 hall⟩
        intro hnil
        simp [hall, hnil] at hany
      · -- no item passed, which is a flaw by itself
        cases hg : gather 0 (vs.map check) <;> rw [hg] at h <;> cases h
    | _ => cases h
  · intro h
    obtain ⟨vs, rfl, hne, hpairs⟩ := h
    have hall := map_eq_map_ok.2 hpairs
    obtain ⟨a, as, rfl⟩ := List.exists_cons_of_ne_nil hne
    have hany : (vs.map check).any passed = true := by
      rw [hall]
      rfl
    simp only [someTuple, hany, if_true]
    exact gather_eq_ok.2 hall

end Checked

/-! ## Depths of values -/

theorem Json.depth_le_members {members : Assoc Json} {key : String} {v : Json}
    (h : Assoc.get? members key = some v) : v.depth ≤ Json.depthMembers members := by
  induction members with
  | nil => cases h
  | cons member members ih =>
    obtain ⟨k, w⟩ := member
    rw [Assoc.get?_cons] at h
    rw [Json.depthMembers]
    split at h
    · cases h
      exact Nat.le_max_left _ _
    · exact Nat.le_trans (ih h) (Nat.le_max_right _ _)

theorem Json.depth_le_items {vs : List Json} {v : Json} (h : v ∈ vs) :
    v.depth ≤ Json.depthItems vs := by
  induction vs with
  | nil => cases h
  | cons w vs ih =>
    rw [Json.depthItems]
    rcases List.mem_cons.1 h with rfl | h
    · exact Nat.le_max_left _ _
    · exact Nat.le_trans (ih h) (Nat.le_max_right _ _)

namespace TypeExpr

/-- What an object says of being a collection of keys and values. -/
def keyValue (members : Assoc Json) : Checked Bool :=
  Checked.fieldD members "key_value" false Checked.bool

/-- The JSON values that describe a type. Members that are not named here may be there too. -/
inductive Describes : Json → TypeExpr → Prop where
  | simple {members : Assoc Json} {name : String}
      (hkind : members.get? "kind" = some (.string "simple"))
      (hname : members.get? "name" = some (.string name)) (hne : name ≠ "") :
      Describes (.object members) (.simple name)
  | nilable {members : Assoc Json} {v : Json} {inner : TypeExpr}
      (hkind : members.get? "kind" = some (.string "nilable"))
      (hinner : members.get? "inner" = some v) (h : Describes v inner) :
      Describes (.object members) (.nilable inner)
  | union {members : Assoc Json} {vs : List Json} {alternatives : List TypeExpr}
      (hkind : members.get? "kind" = some (.string "union"))
      (hitems : members.get? "alternatives" = some (.array vs)) (hne : alternatives ≠ [])
      (hlen : vs.length = alternatives.length)
      (h : ∀ p ∈ vs.zip alternatives, Describes p.1 p.2) :
      Describes (.object members) (.union alternatives)
  | generic {members : Assoc Json} {vs : List Json} {container : String} {args : List TypeExpr}
      (hkind : members.get? "kind" = some (.string "generic"))
      (hname : members.get? "container" = some (.string container)) (hc : container ≠ "")
      (hitems : members.get? "args" = some (.array vs)) (hne : args ≠ [])
      (hlen : vs.length = args.length) (h : ∀ p ∈ vs.zip args, Describes p.1 p.2)
      (hpair : keyValue members = .ok false) :
      Describes (.object members) (.generic container args)
  | keyed {members : Assoc Json} {v w : Json} {container : String} {key value : TypeExpr}
      (hkind : members.get? "kind" = some (.string "generic"))
      (hname : members.get? "container" = some (.string container)) (hc : container ≠ "")
      (hitems : members.get? "args" = some (.array [v, w])) (hkey : Describes v key)
      (hvalue : Describes w value) (hpair : keyValue members = .ok true) :
      Describes (.object members) (.keyed container key value)
  | tuple {members : Assoc Json} {vs : List Json} {elements : List TypeExpr}
      (hkind : members.get? "kind" = some (.string "tuple"))
      (hitems : members.get? "elements" = some (.array vs)) (hne : elements ≠ [])
      (hlen : vs.length = elements.length)
      (h : ∀ p ∈ vs.zip elements, Describes p.1 p.2) :
      Describes (.object members) (.tuple elements)
  | fixedHash {members : Assoc Json}
      (hkind : members.get? "kind" = some (.string "fixed_hash")) :
      Describes (.object members) .fixedHash
  | proc {members : Assoc Json} {raw : String}
      (hkind : members.get? "kind" = some (.string "proc"))
      (hraw : members.get? "raw" = some (.string raw)) (hne : raw ≠ "") :
      Describes (.object members) (.proc raw)
  | untyped {members : Assoc Json}
      (hkind : members.get? "kind" = some (.string "untyped")) :
      Describes (.object members) .untyped

/-! ## What the check accepts -/

theorem collection_eq_ok {container : String} {args : List TypeExpr} {pair : Bool} {t : TypeExpr} :
    collection container args pair = .ok t ↔
      (pair = false ∧ t = .generic container args) ∨
        ∃ key value, pair = true ∧ args = [key, value] ∧ t = .keyed container key value := by
  unfold collection
  cases pair with
  | false => simp [eq_comm]
  | true =>
    simp only [if_true]
    split
    · rename_i key value
      constructor
      · intro h
        exact .inr ⟨key, value, trivial, rfl, (Checked.ok.inj h).symm⟩
      · intro h
        rcases h with ⟨h, -⟩ | ⟨_, _, -, he, rfl⟩
        · cases h
        · cases he
          rfl
    · rename_i hne
      simp only [Checked.flawed_ne_ok, false_iff]
      intro h
      rcases h with ⟨h, -⟩ | ⟨key, value, -, rfl, -⟩
      · cases h
      · exact hne key value rfl

/-- The parts of a collection, before they are put together. -/
theorem parts_eq_ok {item : Json → Checked TypeExpr} {members : Assoc Json} {container : String}
    {args : List TypeExpr} {pair : Bool} :
    (fun container args keyValue => (container, args, keyValue))
        <$> Checked.field members "container" Checked.nonEmpty
        <*> Checked.field members "args" (Checked.someTuple item)
        <*> keyValue members = .ok (container, args, pair) ↔
      (members.get? "container" = some (.string container) ∧ container ≠ "") ∧
      (∃ vs, members.get? "args" = some (.array vs) ∧ args ≠ [] ∧ vs.length = args.length ∧
        ∀ p ∈ vs.zip args, item p.1 = .ok p.2) ∧
      keyValue members = .ok pair := by
  simp only [Checked.seq_eq_ok, Checked.map_eq_ok, Checked.field_eq_ok, Checked.nonEmpty_eq_ok,
    Checked.someTuple_eq_ok]
  constructor
  · intro h
    obtain ⟨_, _, ⟨_, _, ⟨_, ⟨_, hname, rfl, hc⟩, rfl⟩, ⟨_, hitems, vs, rfl, hargs⟩, rfl⟩, hpair,
      hsame⟩ := h
    cases hsame
    exact ⟨⟨hname, hc⟩, ⟨vs, hitems, hargs⟩, hpair⟩
  · intro h
    obtain ⟨⟨hname, hc⟩, ⟨vs, hitems, hargs⟩, hpair⟩ := h
    exact ⟨_, pair, ⟨_, args, ⟨container, ⟨_, hname, rfl, hc⟩, rfl⟩, ⟨_, hitems, vs, rfl, hargs⟩,
      rfl⟩, hpair, rfl⟩

/-- A value that passes the check describes what comes out of it. -/
theorem describes_of_checkAt {n : Nat} {v : Json} {t : TypeExpr} (h : checkAt n v = .ok t) :
    Describes v t := by
  induction n generalizing v t with
  | zero => cases v <;> cases h
  | succ n ih =>
    cases v with
    | object members =>
      rw [checkAt] at h
      split at h
      · cases h
      · rename_i kind hkind
        split at h
        · rename_i checked hchecked
          rw [Checked.under_eq_ok] at h
          unfold checkKind at hchecked
          split at hchecked <;> cases hchecked
          · simp only [Checked.map_eq_ok, Checked.field_eq_ok, Checked.nonEmpty_eq_ok] at h
            obtain ⟨name, ⟨_, hname, rfl, hne⟩, rfl⟩ := h
            exact .simple hkind hname hne
          · simp only [Checked.map_eq_ok, Checked.field_eq_ok] at h
            obtain ⟨inner, ⟨w, hinner, hw⟩, rfl⟩ := h
            exact .nilable hkind hinner (ih hw)
          · simp only [Checked.map_eq_ok, Checked.field_eq_ok, Checked.someTuple_eq_ok] at h
            obtain ⟨alternatives, ⟨_, hitems, vs, rfl, hne, hlen, hall⟩, rfl⟩ := h
            exact .union hkind hitems hne hlen fun p hp => ih (hall p hp)
          · rw [Checked.andThen_eq_ok] at h
            obtain ⟨⟨container, args, pair⟩, hparts, hmake⟩ := h
            obtain ⟨⟨hname, hc⟩, ⟨vs, hitems, hne, hlen, hall⟩, hpair⟩ := parts_eq_ok.1 hparts
            rcases collection_eq_ok.1 hmake with ⟨rfl, rfl⟩ | ⟨key, value, rfl, rfl, rfl⟩
            · exact .generic hkind hname hc hitems hne hlen (fun p hp => ih (hall p hp)) hpair
            · obtain ⟨v, w, rfl⟩ := List.length_eq_two.1 hlen
              exact .keyed hkind hname hc hitems (ih (hall (v, key) (by simp)))
                (ih (hall (w, value) (by simp))) hpair
          · simp only [Checked.map_eq_ok, Checked.field_eq_ok, Checked.someTuple_eq_ok] at h
            obtain ⟨elements, ⟨_, hitems, vs, rfl, hne, hlen, hall⟩, rfl⟩ := h
            exact .tuple hkind hitems hne hlen fun p hp => ih (hall p hp)
          · cases h
            exact .fixedHash hkind
          · simp only [Checked.map_eq_ok, Checked.field_eq_ok, Checked.nonEmpty_eq_ok] at h
            obtain ⟨raw, ⟨_, hraw, rfl, hne⟩, rfl⟩ := h
            exact .proc hkind hraw hne
          · cases h
            exact .untyped hkind
        · cases h
      · cases h
    | _ => cases h

theorem checkAt_object {n : Nat} {members : Assoc Json} {kind : String} {checked : Checked TypeExpr}
    (hkind : members.get? "kind" = some (.string kind))
    (h : checkKind (checkAt n) members kind = some checked) :
    checkAt (n + 1) (.object members) = checked.under kind := by
  simp only [checkAt, hkind, h]

theorem checkAt_items {n : Nat} {vs : List Json} {ts : List TypeExpr}
    (ih : ∀ p ∈ vs.zip ts, ∀ n, p.1.depth ≤ n → checkAt n p.1 = .ok p.2)
    (hn : (Json.array vs).depth ≤ n) : ∀ p ∈ vs.zip ts, checkAt n p.1 = .ok p.2 := by
  intro p hp
  rw [Json.depth] at hn
  have hle := Json.depth_le_items (List.of_mem_zip hp).1
  exact ih p hp n (by omega)

/-- A value that describes a type passes the check, if the check goes deep enough. -/
theorem checkAt_of_describes {v : Json} {t : TypeExpr} (h : Describes v t) :
    ∀ n, v.depth ≤ n → checkAt n v = .ok t := by
  have hsucc {members : Assoc Json} {n : Nat} (hn : (Json.object members).depth ≤ n) :
      ∃ m, n = m + 1 ∧ ∀ {key : String} {v : Json}, members.get? key = some v → v.depth ≤ m := by
    rw [Json.depth] at hn
    refine ⟨n - 1, by omega, fun hget => ?_⟩
    have hle := Json.depth_le_members hget
    omega
  induction h with
  | simple hkind hname hne =>
    intro n hn
    obtain ⟨m, rfl, -⟩ := hsucc hn
    rw [checkAt_object hkind rfl, Checked.under_eq_ok, Checked.map_eq_ok]
    exact ⟨_, Checked.field_eq_ok.2 ⟨_, hname, Checked.nonEmpty_eq_ok.2 ⟨rfl, hne⟩⟩, rfl⟩
  | nilable hkind hinner h ih =>
    intro n hn
    obtain ⟨m, rfl, hmember⟩ := hsucc hn
    rw [checkAt_object hkind rfl, Checked.under_eq_ok, Checked.map_eq_ok]
    exact ⟨_, Checked.field_eq_ok.2 ⟨_, hinner, ih m (hmember hinner)⟩, rfl⟩
  | union hkind hitems hne hlen h ih =>
    intro n hn
    obtain ⟨m, rfl, hmember⟩ := hsucc hn
    have hall := checkAt_items ih (hmember hitems)
    rw [checkAt_object hkind rfl, Checked.under_eq_ok, Checked.map_eq_ok]
    exact ⟨_, Checked.field_eq_ok.2 ⟨_, hitems,
      Checked.someTuple_eq_ok.2 ⟨_, rfl, hne, hlen, hall⟩⟩, rfl⟩
  | generic hkind hname hc hitems hne hlen h hpair ih =>
    intro n hn
    obtain ⟨m, rfl, hmember⟩ := hsucc hn
    have hall := checkAt_items ih (hmember hitems)
    rw [checkAt_object hkind rfl, Checked.under_eq_ok, Checked.andThen_eq_ok]
    exact ⟨_, parts_eq_ok.2 ⟨⟨hname, hc⟩, ⟨_, hitems, hne, hlen, hall⟩, hpair⟩, rfl⟩
  | @keyed members v w container key value hkind hname hc hitems hkey hvalue hpair ihk ihv =>
    intro n hn
    obtain ⟨m, rfl, hmember⟩ := hsucc hn
    have hall : ∀ p ∈ [v, w].zip [key, value], checkAt m p.1 = .ok p.2 := by
      refine checkAt_items ?_ (hmember hitems)
      simpa using ⟨ihk, ihv⟩
    rw [checkAt_object hkind rfl, Checked.under_eq_ok, Checked.andThen_eq_ok]
    exact ⟨_, parts_eq_ok.2 ⟨⟨hname, hc⟩, ⟨_, hitems, by simp, rfl, hall⟩, hpair⟩, rfl⟩
  | tuple hkind hitems hne hlen h ih =>
    intro n hn
    obtain ⟨m, rfl, hmember⟩ := hsucc hn
    have hall := checkAt_items ih (hmember hitems)
    rw [checkAt_object hkind rfl, Checked.under_eq_ok, Checked.map_eq_ok]
    exact ⟨_, Checked.field_eq_ok.2 ⟨_, hitems,
      Checked.someTuple_eq_ok.2 ⟨_, rfl, hne, hlen, hall⟩⟩, rfl⟩
  | fixedHash hkind =>
    intro n hn
    obtain ⟨m, rfl, -⟩ := hsucc hn
    rw [checkAt_object hkind rfl]
    rfl
  | proc hkind hraw hne =>
    intro n hn
    obtain ⟨m, rfl, -⟩ := hsucc hn
    rw [checkAt_object hkind rfl, Checked.under_eq_ok, Checked.map_eq_ok]
    exact ⟨_, Checked.field_eq_ok.2 ⟨_, hraw, Checked.nonEmpty_eq_ok.2 ⟨rfl, hne⟩⟩, rfl⟩
  | untyped hkind =>
    intro n hn
    obtain ⟨m, rfl, -⟩ := hsucc hn
    rw [checkAt_object hkind rfl]
    rfl

/-- The check accepts exactly the values that describe a type, however deep they are. -/
theorem check_eq_ok {v : Json} {t : TypeExpr} : check v = .ok t ↔ Describes v t :=
  ⟨describes_of_checkAt, fun h => checkAt_of_describes h v.depth (Nat.le_refl _)⟩

/-! ## Checked types -/

/-- What holds of every pair's second part holds of every second part. -/
theorem forall_of_zip {vs : List Json} {ts : List TypeExpr} {P : TypeExpr → Prop}
    (hlen : vs.length = ts.length) (h : ∀ p ∈ vs.zip ts, P p.2) : ∀ t ∈ ts, P t := by
  intro t ht
  rw [← List.map_snd_zip (Nat.le_of_eq hlen.symm)] at ht
  obtain ⟨p, hp, rfl⟩ := List.mem_map.1 ht
  exact h p hp

/-- A type that a value describes is well-formed. -/
theorem Describes.wellFormed {v : Json} {t : TypeExpr} (h : Describes v t) : t.WellFormed := by
  induction h with
  | simple hkind hname hne => exact .simple hne
  | nilable hkind hinner h ih => exact .nilable ih
  | union hkind hitems hne hlen h ih => exact .union hne (forall_of_zip hlen ih)
  | generic hkind hname hc hitems hne hlen h hpair ih =>
    exact .generic hc hne (forall_of_zip hlen ih)
  | keyed hkind hname hc hitems hkey hvalue hpair ihk ihv => exact .keyed hc ihk ihv
  | tuple hkind hitems hne hlen h ih => exact .tuple hne (forall_of_zip hlen ih)
  | fixedHash hkind => exact .fixedHash
  | proc hkind hraw hne => exact .proc hne
  | untyped hkind => exact .untyped

theorem toJsons_eq_map (ts : List TypeExpr) : toJsons ts = ts.map toJson := by
  induction ts with
  | nil => rfl
  | cons t ts ih => rw [toJsons, ih, List.map_cons]

theorem length_toJsons (ts : List TypeExpr) : (toJsons ts).length = ts.length := by
  rw [toJsons_eq_map, List.length_map]

theorem zip_toJsons {ts : List TypeExpr} (h : ∀ t ∈ ts, Describes t.toJson t) :
    ∀ p ∈ (toJsons ts).zip ts, Describes p.1 p.2 := by
  intro p hp
  rw [toJsons_eq_map] at hp
  induction ts with
  | nil => cases hp
  | cons t ts ih =>
    obtain ⟨ht, hts⟩ := List.forall_mem_cons.1 h
    rcases List.mem_cons.1 hp with rfl | hp
    · exact ht
    · exact ih hts hp

/-- A well-formed type is described by what it is written as. -/
theorem WellFormed.describes_toJson {t : TypeExpr} (h : t.WellFormed) : Describes t.toJson t := by
  induction h with
  | simple hne => exact .simple rfl rfl hne
  | nilable h ih => exact .nilable rfl rfl ih
  | union hne h ih => exact .union rfl rfl hne (length_toJsons _) (zip_toJsons ih)
  | generic hc hne h ih => exact .generic rfl rfl hc rfl hne (length_toJsons _) (zip_toJsons ih) rfl
  | keyed hc hk hv ihk ihv => exact .keyed rfl rfl hc rfl ihk ihv rfl
  | tuple hne h ih => exact .tuple rfl rfl hne (length_toJsons _) (zip_toJsons ih)
  | fixedHash => exact .fixedHash rfl
  | proc hne => exact .proc rfl rfl hne
  | untyped => exact .untyped rfl

/-- A value that passes the check describes the type that comes out, so that no name is empty, no
list of parts is empty and a collection of keys and values has two arguments, at any depth. Such a
type can be shown: every node of it shows as a list of strings that is not empty and has no empty
string in it, and so it has a first one. What the type is written as passes the check, and the same
type comes out. -/
theorem check_shown {v : Json} {t : TypeExpr} (h : check v = .ok t) :
    Describes v t ∧ t.WellFormed ∧
    (∀ u ∈ t.nodes, u.render ≠ [] ∧ (∀ s ∈ u.render, s ≠ "") ∧
      u.render.head? = some u.renderFirst) ∧
    check t.toJson = .ok t := by
  have hdesc : Describes v t := check_eq_ok.1 h
  have hwf : t.WellFormed := hdesc.wellFormed
  refine ⟨hdesc, hwf, ?_, check_eq_ok.2 hwf.describes_toJson⟩
  intro u hu
  have hnode := hwf.of_mem_nodes u hu
  exact ⟨hnode.shown.1, hnode.shown.2, hnode.head?_render⟩

/-- A hash of symbols and alternatives, written by hand: the flag is a number and one member is not
part of the format. -/
def handwritten : Json :=
  .object [("kind", .string "generic"), ("container", .string "Hash"), ("note", .null),
    ("key_value", .int 1),
    ("args", .array [.object [("name", .string "Symbol"), ("kind", .string "simple")],
      .object [("kind", .string "union"), ("alternatives", .array [
        .object [("kind", .string "nilable"), ("inner", .object [("kind", .string "untyped")])],
        .object [("kind", .string "tuple"), ("elements", .array [
          .object [("kind", .string "proc"), ("raw", .string "T.proc.void")]])]])]])]

theorem check_shown_handwritten :
    let t := keyed "Hash" (simple "Symbol") (union [nilable untyped, tuple [proc "T.proc.void"]])
    check handwritten = .ok t ∧ t.render = ["Hash\x7bSymbol => T.untyped, nil, Array(T.proc.void)\x7d"]
      ∧ (∀ u ∈ t.nodes, u.render ≠ [] ∧ (∀ s ∈ u.render, s ≠ "") ∧
        u.render.head? = some u.renderFirst) ∧ check t.toJson = .ok t := by
  intro t
  have h : check handwritten = .ok t := rfl
  obtain ⟨-, -, hnodes, hagain⟩ := check_shown h
  exact ⟨h, by decide +kernel, hnodes, hagain⟩

end TypeExpr

end TypeTags
