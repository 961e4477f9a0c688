import Mathlib.Data.List.Forall2
import Scorebook.Json.Decoder
/-!
# Values that are read alike

What is written as JSON may come back changed: with the fields of its objects in another order, with fields that the
reader does not know, and with singles as other numbers that read as these singles (`Varies`).  A reader reads a value
soundly if it reads all its variants as one thing (`Reads`).  The readers of structures do so as soon as the readers of
their fields do (`reads_of_slots`).
-/
namespace Scorebook.Json

/-- **The variants of a value.**  No key is repeated: the fields that are added have keys of their own. -/
inductive Varies : Json → Json → Prop where
  | refl (v : Json) : Varies v v
  /-- A single is written as a number, and reads back as itself. -/
  | number {x : Float32} {w : Json} (h : w.single? = some x) : Varies (.single x) w
  | list {items items' : List Json} (h : List.Forall₂ Varies items items') : Varies (.list items) (.list items')
  | object {fields fields' extra all : List (String × Json)} (hk : fields'.map (·.1) = fields.map (·.1))
      (hv : List.Forall₂ Varies (fields.map (·.2)) (fields'.map (·.2)))
      (he : ∀ f ∈ extra, f.1 ∉ fields.map (·.1)) (hp : all.Perm (fields' ++ extra)) :
      Varies (.object fields) (.object all)

/-- Every variant of a value is read as `a`. -/
def Reads {α : Type} (read : Json → Option α) (v : Json) (a : α) : Prop := ∀ w, v.Varies w → read w = some a

/-! ## Scalars -/

section Scalars

theorem reads_bool (b : Bool) : Reads bool? (.bool b) b := by
  rintro w ⟨⟩
  rfl

theorem reads_text (s : String) : Reads text? (.text s) s := by
  rintro w ⟨⟩
  rfl

theorem reads_intIn {low high n : Int} (h : low ≤ n ∧ n ≤ high) : Reads (intIn? low high) (.int n) n := by
  rintro w ⟨⟩
  simp [intIn?, h]

theorem reads_natBelow (bits : Nat) {n : Nat} (h : n ≤ Nat.pow 2 bits - 1) : Reads (natBelow? bits) (.nat n) n := by
  intro w hw
  rw [natBelow?, reads_intIn ⟨Int.natCast_nonneg n, Int.ofNat_le.2 h⟩ w hw]
  rfl

theorem reads_single {x : Float32} (h : x.isFinite = true) : Reads single? (.single x) x := by
  intro w hw
  cases hw with
  | refl => simp [single?, h]
  | number h => exact h

theorem reads_named {α : Type} {ofName? : String → Option α} {s : String} {a : α} (h : ofName? s = some a)
    (route : Route) : Reads (named? route ofName?) (.text s) a := by
  rintro w ⟨⟩
  exact h

end Scalars

/-! ## Options and lists -/

section Containers

variable {α : Type} {read : Json → Option α} {f : α → Json}

theorem reads_nullable (hnull : read .null = none) {o : Option α} (h : ∀ a ∈ o, Reads read (f a) a) :
    Reads (nullable? read) (.option f o) o := by
  intro w hw
  cases o with
  | none =>
    cases hw
    rfl
  | some a =>
    have hr : read w = some a := h a rfl w hw
    unfold nullable?
    split
    · rw [hnull] at hr
      cases hr
    · rw [hr]
      rfl

theorem mapM_of_varies : ∀ {items : List α} {ws : List Json}, (∀ a ∈ items, Reads read (f a) a) →
    List.Forall₂ Varies (items.map f) ws → ws.mapM read = some items
  | [], _, _, .nil => rfl
  | a :: items, _, h, .cons hw hws => by
    rw [List.mapM_cons, h a List.mem_cons_self _ hw,
      mapM_of_varies (fun b hb => h b (List.mem_cons_of_mem _ hb)) hws]
    rfl

theorem reads_listOf {items : List α} (h : ∀ a ∈ items, Reads read (f a) a) :
    Reads (listOf? read) (.listOf f items) items := by
  intro w hw
  cases hw with
  | refl => exact mapM_of_varies h (List.forall₂_same.2 (fun v _ => .refl v))
  | list hws => exact mapM_of_varies h hws

end Containers

/-! ## Structures -/

/-- A variant of an object has variants of its fields, in some order and among others. -/
theorem Varies.object_inv {fields : List (String × Json)} {w : Json} (h : (Json.object fields).Varies w) :
    ∃ fields' extra all, w = .object all ∧ fields'.map (·.1) = fields.map (·.1) ∧
      List.Forall₂ Varies (fields.map (·.2)) (fields'.map (·.2)) ∧
      (∀ f ∈ extra, f.1 ∉ fields.map (·.1)) ∧ all.Perm (fields' ++ extra) := by
  cases h with
  | refl =>
    have hsame : List.Forall₂ Varies (fields.map (·.2)) (fields.map (·.2)) := List.forall₂_same.2 (fun v _ => .refl v)
    exact ⟨fields, [], fields, rfl, rfl, hsame, fun _ hf => absurd hf List.not_mem_nil, by rw [List.append_nil]⟩
  | object hk hv he hp => exact ⟨_, _, _, rfl, hk, hv, he, hp⟩

section Fields

variable {fields extra all : List (String × Json)}

theorem filter_key_of_notMem {name : String} (h : name ∉ fields.map (·.1)) :
    fields.filter (fun f => f.1 == name) = [] :=
  List.filter_eq_nil_iff.2 (fun _ hf he => h (beq_iff_eq.1 he ▸ List.mem_map_of_mem hf))

/-- **Whatever the order and whatever else there is**, one field has the key. -/
theorem filter_key {name : String} {v : Json} (hn : (fields.map (·.1)).Nodup) (hm : (name, v) ∈ fields)
    (he : ∀ f ∈ extra, f.1 ∉ fields.map (·.1)) (hp : all.Perm (fields ++ extra)) :
    all.filter (fun f => f.1 == name) = [(name, v)] := by
  have hextra : extra.filter (fun f => f.1 == name) = [] :=
    filter_key_of_notMem (fun hx => by
      obtain ⟨f, hf, hname⟩ := List.mem_map.1 hx
      exact he f hf (hname ▸ List.mem_map_of_mem hm))
  have hone : fields.filter (fun f => f.1 == name) = [(name, v)] := by
    obtain ⟨before, after, rfl⟩ := List.append_of_mem hm
    rw [List.map_append, List.map_cons, List.nodup_append, List.nodup_cons] at hn
    obtain ⟨-, ⟨hafter, -⟩, hbefore⟩ := hn
    rw [List.filter_append, List.filter_cons, if_pos (by simp), filter_key_of_notMem hafter,
      filter_key_of_notMem (fun hb => hbefore name hb name List.mem_cons_self rfl)]
    rfl
  have hperm := hp.filter (fun f => f.1 == name)
  rw [List.filter_append, hone, hextra, List.append_nil] at hperm
  exact List.perm_singleton.1 hperm

theorem mapM_keys {g : String → Option Slot} : ∀ {l : List (String × Json)}, (∀ f ∈ l, g f.1 = some (.given f.2)) →
    (l.map (·.1)).mapM g = some ((l.map (·.2)).map .given)
  | [], _ => rfl
  | f :: l, h => by
    rw [List.map_cons, List.mapM_cons, h f List.mem_cons_self, mapM_keys (fun x hx => h x (List.mem_cons_of_mem _ hx))]
    rfl

end Fields

/-- **A structure is read soundly if its fields are.** -/
theorem reads_of_slots {α : Type} {fields : List (String × Json)} {names : List String}
    {read : List Slot → Option α} {a : α} (hk : fields.map (·.1) = names) (hn : names.Nodup)
    (h : ∀ values, List.Forall₂ Varies (fields.map (·.2)) values → read (values.map .given) = some a) :
    Reads (fun w => (w.slots? names).bind read) (.object fields) a := by
  subst hk
  intro w hw
  obtain ⟨fields', extra, all, rfl, hk, hv, he, hp⟩ := hw.object_inv
  rw [← hk] at hn he
  have hslots : (Json.object all).slots? (fields.map (·.1)) = some ((fields'.map (·.2)).map .given) := by
    rw [← hk]
    exact mapM_keys (fun f hf => by rw [slot?, filter_key hn hf he hp])
  simp only [hslots]
  exact h _ hv

end Scorebook.Json
