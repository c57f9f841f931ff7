import Mathlib.Data.List.Nodup

/-!
# Look-ups

Files by their places, blocks by their instances and nets by their interfaces are
all kept in lists of pairs, where the first pair with a key counts.
-/

namespace Boardwright

theorem lookup_cons_ite {α β : Type} [BEq α] [LawfulBEq α] [DecidableEq α] (a key : α) (value : β)
    (entries : List (α × β)) :
    ((key, value) :: entries).lookup a = if a = key then some value else entries.lookup a := by
  rw [List.lookup_cons]
  by_cases hkey : a = key
  · simp [hkey]
  · rw [beq_false_of_ne hkey, if_neg hkey]

theorem mem_of_lookup {α β : Type} [BEq α] [LawfulBEq α] {key : α} {value : β}
    {entries : List (α × β)} (h : entries.lookup key = some value) : (key, value) ∈ entries := by
  obtain ⟨front, back, rfl, -⟩ := List.lookup_eq_some_iff.1 h
  simp

/-- A key that has only one value in the list. -/
theorem lookup_of_agreeing {α β : Type} [BEq α] [LawfulBEq α] {key : α} {value : β}
    {entries : List (α × β)} (h : (key, value) ∈ entries)
    (hagree : ∀ other, (key, other) ∈ entries → other = value) :
    entries.lookup key = some value := by
  cases hfound : entries.lookup key with
  | none => simpa using List.lookup_eq_none_iff.1 hfound _ h
  | some other => rw [hagree other (mem_of_lookup hfound)]

theorem lookup_of_mem_nodup {α β : Type} [BEq α] [LawfulBEq α] {key : α} {value : β}
    {entries : List (α × β)} (hdistinct : (entries.map (·.1)).Nodup) (h : (key, value) ∈ entries) :
    entries.lookup key = some value := by
  apply lookup_of_agreeing h
  intro other hother
  exact congrArg Prod.snd (List.inj_on_of_nodup_map hdistinct hother h rfl)

/-- A look-up after some keys were dropped. -/
theorem lookup_filter_key {α β : Type} [BEq α] [LawfulBEq α] (keep : α → Bool) (key : α)
    (entries : List (α × β)) :
    (entries.filter fun p => keep p.1).lookup key =
      if keep key then entries.lookup key else none := by
  induction entries with
  | nil => simp
  | cons p entries ih =>
    obtain ⟨k, v⟩ := p
    by_cases hk : key = k
    · subst hk
      cases hkeep : keep key with
      | true => simp [hkeep]
      | false => simp [hkeep, ih]
    · have hne : (key == k) = false := by simpa using hk
      cases hkeep : keep k with
      | true => simp [hkeep, List.lookup_cons, hne, ih]
      | false => simp [hkeep, List.lookup_cons, hne, ih]

/-- A look-up after keys were changed, for a key that comes from one key only. -/
theorem lookup_map_key {α β : Type} [BEq α] [LawfulBEq α] {f : α → α} {key key' : α}
    {entries : List (α × β)} (h : ∀ p ∈ entries, f p.1 = key ↔ p.1 = key') :
    (entries.map fun p => (f p.1, p.2)).lookup key = entries.lookup key' := by
  induction entries with
  | nil => rfl
  | cons p entries ih =>
    have hp := h p List.mem_cons_self
    have hrest := ih fun q hq => h q (List.mem_cons_of_mem _ hq)
    obtain ⟨k, v⟩ := p
    rw [List.map_cons, List.lookup_cons, List.lookup_cons, hrest]
    by_cases hk : k = key'
    · have hf : f k = key := hp.2 hk
      simp [hk, hf.symm]
    · have hf : f k ≠ key := fun heq => hk (hp.1 heq)
      have hk' : (key' == k) = false := by simpa using fun heq : key' = k => hk heq.symm
      have hf' : (key == f k) = false := by simpa using fun heq : key = f k => hf heq.symm
      simp [hk', hf']

end Boardwright
