import BuilderRelay.Storage.Cache

/-!
# What the cache holds

A stored value is found where it was stored, everything else stays as it was, and there is one more
value of a key if and only if none was there. Which calls succeed is decided by the scripts alone.
-/

namespace BuilderRelay

namespace FailureScripts

theorem permit_of_none {script : FailureScripts} {m : CacheMethod} (h : script m = Option.none) :
    script.permit m = .ok script := by
  simp only [permit, h]

/-- Those of the calls that the scripts let through. -/
def admitted (s : FailureScripts) : List CacheCall → List CacheCall
  | [] => []
  | call :: calls =>
      match s.permit call.method with
      | .error _ => s.admitted calls
      | .ok s => call :: s.admitted calls

theorem mem_of_mem_admitted {s : FailureScripts} {calls : List CacheCall} {call : CacheCall}
    (h : call ∈ s.admitted calls) : call ∈ calls := by
  induction calls generalizing s with
  | nil => cases h
  | cons call' calls ih =>
      rw [admitted] at h
      split at h
      · exact List.mem_cons_of_mem _ (ih h)
      · rcases List.mem_cons.mp h with rfl | hlater
        · exact List.mem_cons_self
        · exact List.mem_cons_of_mem _ (ih hlater)

end FailureScripts

namespace Cache

theorem isAt_iff {key field : String} {e : CacheEntry} :
    isAt key field e ↔ e.key = key ∧ e.field = field := by
  simp [isAt]

/-! ## One entry -/

variable {key field : String} {value : Bytes}

theorem find?_put_self (entries : List CacheEntry) :
    (put key field value entries).find? (isAt key field) = some ⟨key, field, value⟩ := by
  induction entries with
  | nil => simp [put, isAt]
  | cons e entries ih =>
      by_cases he : isAt key field e
      · rw [put, if_pos he]
        simp [isAt]
      · rw [put, if_neg he, List.find?_cons_of_neg he, ih]

theorem find?_put_of_ne {field' : String} (h : field' ≠ field) (entries : List CacheEntry) :
    (put key field value entries).find? (isAt key field') = entries.find? (isAt key field') := by
  have hnew : isAt key field' ⟨key, field, value⟩ = false := by simp [isAt, Ne.symm h]
  induction entries with
  | nil => simp [put, hnew]
  | cons e entries ih =>
      by_cases he : isAt key field e
      · have hold : isAt key field' e = false := by
          have hfield := (isAt_iff.mp he).2
          simp [isAt, hfield, Ne.symm h]
        simp [put, he, hnew, hold]
      · rw [put, if_neg he, List.find?_cons, List.find?_cons, ih]

theorem countP_put (entries : List CacheEntry) :
    (put key field value entries).countP (·.key = key) =
      entries.countP (·.key = key) +
        if (entries.find? (isAt key field)).isSome then 0 else 1 := by
  induction entries with
  | nil => simp [put]
  | cons e entries ih =>
      by_cases he : isAt key field e
      · have hkey := (isAt_iff.mp he).1
        simp [put, he, hkey]
      · rw [put, if_neg he, List.countP_cons, ih, List.countP_cons, List.find?_cons]
        simp only [he]
        omega

theorem mem_put {entries : List CacheEntry} {e : CacheEntry}
    (h : e ∈ put key field value entries) : e = ⟨key, field, value⟩ ∨ e ∈ entries := by
  induction entries with
  | nil => simpa [put] using h
  | cons e' entries ih =>
      rw [put] at h
      split at h
      · rcases List.mem_cons.mp h with rfl | hmem
        · exact .inl rfl
        · exact .inr (List.mem_cons_of_mem _ hmem)
      · rcases List.mem_cons.mp h with rfl | hmem
        · exact .inr List.mem_cons_self
        · exact (ih hmem).imp id (List.mem_cons_of_mem _)

/-! ## The cache -/

variable (c : Cache)

@[simp] theorem lookup_store_self : (c.store key field value).lookup key field = some value := by
  simp [lookup, store, find?_put_self]

theorem lookup_store_of_ne {field' : String} (h : field' ≠ field) :
    (c.store key field value).lookup key field' = c.lookup key field' := by
  simp only [lookup, store, find?_put_of_ne h]

theorem length_store :
    (c.store key field value).length key =
      c.length key + if (c.lookup key field).isSome then 0 else 1 := by
  simp only [length, store, countP_put, lookup, Option.isSome_map]

theorem mem_entries_store {e : CacheEntry} (h : e ∈ (c.store key field value).entries) :
    e = ⟨key, field, value⟩ ∨ e ∈ c.entries :=
  mem_put h

end Cache

end BuilderRelay
