import Mathlib.Data.List.Sort

/-!
# serde_json values and objects

The JSON values the call engine builds and hands on: `serde_json::Value` without
floating-point numbers. An object is serde_json's default map, a
`BTreeMap<String, Value>`: its keys are kept in increasing byte order, each once,
and `serde_json::to_string` writes the members in that order.

Rust's `Result` is `Except` throughout the model; its evaluation lemmas come first.
-/

namespace EvsCli

section
variable {ε ε' α β : Type}

@[simp] theorem except_ok_bind (a : α) (f : α → Except ε β) : (Except.ok a >>= f) = f a := rfl

@[simp] theorem except_error_bind (e : ε) (f : α → Except ε β) :
    (Except.error e >>= f) = Except.error e := rfl

@[simp] theorem except_bind_ok_eq (a : α) (f : α → Except ε β) : (Except.ok a).bind f = f a := rfl

@[simp] theorem except_bind_error_eq (e : ε) (f : α → Except ε β) :
    (Except.error e : Except ε α).bind f = .error e := rfl

@[simp] theorem except_map_ok (f : α → β) (a : α) : (f <$> Except.ok a : Except ε β) = .ok (f a) := rfl

@[simp] theorem except_map_error (f : α → β) (e : ε) :
    (f <$> Except.error e : Except ε β) = .error e := rfl

@[simp] theorem except_mapError_ok (f : ε → ε') (a : α) : (Except.ok a).mapError f = .ok a := rfl

@[simp] theorem except_mapError_error (f : ε → ε') (e : ε) :
    (Except.error e : Except ε α).mapError f = .error (f e) := rfl

@[simp] theorem except_mapError_eq_ok {f : ε → ε'} {x : Except ε α} {a : α} : x.mapError f = .ok a ↔ x = .ok a := by
  cases x <;> simp

@[simp] theorem except_map_eq_error {f : α → β} {x : Except ε α} {e : ε} : f <$> x = .error e ↔ x = .error e := by
  cases x <;> simp

theorem except_bind_eq_error {x : Except ε α} {f : α → Except ε β} {e : ε} (h : x >>= f = .error e) :
    x = .error e ∨ ∃ a, x = .ok a ∧ f a = .error e := by
  cases x <;> simp_all

end

inductive JsonValue where
  | null
  | bool (b : Bool)
  | number (n : Int)
  | string (s : String)
  | array (elems : List JsonValue)
  | object (entries : List (String × JsonValue))
  deriving Repr, Inhabited

/-! ## Serialization -/

def JsonValue.isNull : JsonValue → Bool
  | .null => true
  | _ => false

def hexDigit (n : Nat) : Char := "0123456789abcdef".toList.getD n '0'

/-- serde_json's `ESCAPE` table: quote, backslash and the control characters. -/
def escapeChar (c : Char) : String :=
  match c with
  | '"' => "\\\""
  | '\\' => "\\\\"
  | '\n' => "\\n"
  | '\r' => "\\r"
  | '\t' => "\\t"
  | c =>
    if c.val = 8 then "\\b"
    else if c.val = 12 then "\\f"
    else if c.val < 32 then
      "\\u00" ++ (hexDigit (c.val.toNat / 16)).toString ++ (hexDigit (c.val.toNat % 16)).toString
    else c.toString

def quote (s : String) : String := "\"" ++ String.join (s.toList.map escapeChar) ++ "\""

/-- `serde_json::to_string`: the compact writer. -/
def JsonValue.toJsonString : JsonValue → String
  | .null => "null"
  | .bool b => if b then "true" else "false"
  | .number n => toString n
  | .string s => quote s
  | .array es => "[" ++ items es ++ "]"
  | .object es => "\x7b" ++ members es ++ "\x7d"
where
  items : List JsonValue → String
    | [] => ""
    | [e] => e.toJsonString
    | e :: es => e.toJsonString ++ "," ++ items es
  members : List (String × JsonValue) → String
    | [] => ""
    | [(k, e)] => quote k ++ ":" ++ e.toJsonString
    | (k, e) :: es => quote k ++ ":" ++ e.toJsonString ++ "," ++ members es

example : (JsonValue.object [("a", .string "x\"y"), ("b", .array [.number (-3), .null])]).toJsonString
    = "\x7b\"a\":\"x\\\"y\",\"b\":[-3,null]\x7d" := by decide

/-! ## Key order -/

/-- `Ord for str`: byte order, which on UTF-8 text is code-point order. -/
def compareKeys : List Char → List Char → Ordering
  | [], [] => .eq
  | [], _ :: _ => .lt
  | _ :: _, [] => .gt
  | a :: as, b :: bs =>
    if a.toNat < b.toNat then .lt else if b.toNat < a.toNat then .gt else compareKeys as bs

theorem char_eq_of_toNat_eq {a b : Char} (h : a.toNat = b.toNat) : a = b :=
  Char.ext (UInt32.eq_of_val_eq (Fin.ext h))

theorem compareKeys_eq_iff : ∀ {a b : List Char}, compareKeys a b = .eq ↔ a = b
  | [], [] => by simp [compareKeys]
  | [], _ :: _ => by simp [compareKeys]
  | _ :: _, [] => by simp [compareKeys]
  | x :: as, y :: bs => by
    have ih := @compareKeys_eq_iff as bs
    by_cases h₁ : x.toNat < y.toNat
    · have : x ≠ y := fun h => by subst h; omega
      simp [compareKeys, h₁, this]
    · by_cases h₂ : y.toNat < x.toNat
      · have : x ≠ y := fun h => by subst h; omega
        simp [compareKeys, h₁, h₂, this]
      · have : x = y := char_eq_of_toNat_eq (by omega)
        simp [compareKeys, h₁, h₂, this, ih]

theorem compareKeys_swap : ∀ a b : List Char, compareKeys b a = (compareKeys a b).swap
  | [], [] => rfl
  | [], _ :: _ => rfl
  | _ :: _, [] => rfl
  | x :: as, y :: bs => by
    simp only [compareKeys]
    by_cases h₁ : x.toNat < y.toNat
    · simp [h₁, show ¬ y.toNat < x.toNat by omega, Ordering.swap]
    · by_cases h₂ : y.toNat < x.toNat
      · simp [h₁, h₂, Ordering.swap]
      · simp [h₁, h₂, compareKeys_swap as bs]

theorem compareKeys_lt_trans :
    ∀ {a b c : List Char}, compareKeys a b = .lt → compareKeys b c = .lt → compareKeys a c = .lt
  | [], _ :: _, _ :: _, _, _ => rfl
  | a, [], _, h, _ => by cases a <;> simp [compareKeys] at h
  | _, b, [], _, h => by cases b <;> simp [compareKeys] at h
  | x :: as, y :: bs, z :: cs, hab, hbc => by
    simp only [compareKeys] at hab hbc ⊢
    split_ifs at hab hbc ⊢ <;> first
      | rfl | exact compareKeys_lt_trans hab hbc | (exfalso; omega)

/-- `a` sorts strictly before `b` as a `BTreeMap` key. -/
def KeyLt (a b : String) : Prop := compareKeys a.toList b.toList = .lt

theorem keyLt_irrefl (k : String) : ¬ KeyLt k k := by
  simp [KeyLt, compareKeys_eq_iff.mpr rfl]

theorem KeyLt.trans {a b c : String} (h₁ : KeyLt a b) (h₂ : KeyLt b c) : KeyLt a c :=
  compareKeys_lt_trans h₁ h₂

theorem keyLt_of_compare_gt {a b : String} (h : compareKeys a.toList b.toList = .gt) : KeyLt b a := by
  rw [KeyLt, compareKeys_swap, h]; rfl

theorem eq_of_compare_eq {a b : String} (h : compareKeys a.toList b.toList = .eq) : a = b :=
  String.ext (compareKeys_eq_iff.mp h)

/-! ## Objects -/

/-- `BTreeMap::insert`: a new key goes to its place in key order, an old one keeps
its place and takes the new value. -/
def insertEntry (k : String) (v : JsonValue) : List (String × JsonValue) → List (String × JsonValue)
  | [] => [(k, v)]
  | e :: rest =>
    match compareKeys k.toList e.1.toList with
    | .lt => (k, v) :: e :: rest
    | .eq => (k, v) :: rest
    | .gt => e :: insertEntry k v rest

theorem mem_insertEntry {k : String} {v : JsonValue} :
    ∀ {l : List (String × JsonValue)} {x}, x ∈ insertEntry k v l → x = (k, v) ∨ x ∈ l
  | [], x, h => by simp_all [insertEntry]
  | e :: rest, x, h => by
    simp only [insertEntry] at h
    split at h
    · simpa using h
    · simp only [List.mem_cons] at h ⊢; tauto
    · rcases List.mem_cons.mp h with rfl | h
      · exact .inr (List.mem_cons_self _ _)
      · exact (mem_insertEntry h).imp_right (List.mem_cons_of_mem _)

theorem insertEntry_sorted (k : String) (v : JsonValue) :
    ∀ {l : List (String × JsonValue)}, l.Pairwise (fun a b => KeyLt a.1 b.1) →
      (insertEntry k v l).Pairwise (fun a b => KeyLt a.1 b.1)
  | [], _ => by simp [insertEntry]
  | e :: rest, h => by
    rw [List.pairwise_cons] at h
    simp only [insertEntry]
    split
    · rename_i hlt
      refine List.Pairwise.cons (fun x hx => ?_) (List.Pairwise.cons h.1 h.2)
      rcases List.mem_cons.mp hx with rfl | hx
      · exact hlt
      · exact KeyLt.trans hlt (h.1 x hx)
    · rename_i heq
      cases eq_of_compare_eq heq
      exact List.Pairwise.cons h.1 h.2
    · rename_i hgt
      refine List.Pairwise.cons (fun x hx => ?_) (insertEntry_sorted k v h.2)
      rcases mem_insertEntry hx with rfl | hx
      · exact keyLt_of_compare_gt hgt
      · exact h.1 x hx

@[simp] theorem lookup_cons_ite (a k : String) (b : JsonValue) (l : List (String × JsonValue)) :
    ((a, b) :: l).lookup k = if k = a then some b else l.lookup k := by
  by_cases h : k = a
  · simp [h]
  · simp [List.lookup_cons, beq_eq_false_iff_ne.mpr h, h]

theorem lookup_insertEntry (k k' : String) (v : JsonValue) :
    ∀ l : List (String × JsonValue),
      (insertEntry k v l).lookup k' = if k' = k then some v else l.lookup k'
  | [] => by simp [insertEntry]
  | (a, b) :: rest => by
    simp only [insertEntry]
    split
    · simp
    · rename_i heq
      cases eq_of_compare_eq heq
      by_cases h : k' = k <;> simp [h]
    · rename_i hgt
      have hne : a ≠ k := fun h => by simp [h, compareKeys_eq_iff.mpr rfl] at hgt
      by_cases h : k' = a
      · subst h; simp [hne]
      · simp [h, lookup_insertEntry k k' v rest]

/-- A `serde_json::Map`: a `BTreeMap<String, Value>`, its keys strictly increasing. -/
structure JsonMap where
  entries : List (String × JsonValue)
  sorted : entries.Pairwise fun a b => KeyLt a.1 b.1

namespace JsonMap

def empty : JsonMap := ⟨[], List.Pairwise.nil⟩

/-- `map[k] = v`, as `IndexMut for Value` does on an object. -/
def insert (m : JsonMap) (k : String) (v : JsonValue) : JsonMap :=
  ⟨insertEntry k v m.entries, insertEntry_sorted k v m.sorted⟩

def get? (m : JsonMap) (k : String) : Option JsonValue := m.entries.lookup k

def keys (m : JsonMap) : List String := m.entries.map Prod.fst

def toValue (m : JsonMap) : JsonValue := .object m.entries

@[simp] theorem get?_empty (k : String) : empty.get? k = none := rfl

@[simp] theorem get?_insert (m : JsonMap) (k k' : String) (v : JsonValue) :
    (m.insert k v).get? k' = if k' = k then some v else m.get? k' :=
  lookup_insertEntry k k' v m.entries

theorem keys_nodup (m : JsonMap) : m.keys.Nodup := by
  rw [keys, List.Nodup, List.pairwise_map]
  exact m.sorted.imp fun {a b} (h : KeyLt a.1 b.1) (he : a.1 = b.1) => keyLt_irrefl b.1 (he ▸ h)

theorem mem_keys {m : JsonMap} {k : String} : k ∈ m.keys ↔ (m.get? k).isSome := by
  simp only [keys, get?, List.lookup_isSome_iff, List.mem_map, beq_iff_eq]
  constructor <;> rintro ⟨p, hp, h⟩ <;> exact ⟨p, hp, h.symm⟩

theorem mem_iff_lookup_of_nodup :
    ∀ {l : List (String × JsonValue)}, (l.map Prod.fst).Nodup → ∀ {k v}, (k, v) ∈ l ↔ l.lookup k = some v
  | [], _, _, _ => by simp
  | (a, b) :: l, h, k, v => by
    rw [List.map_cons, List.nodup_cons] at h
    by_cases hk : k = a
    · subst hk
      have hv : (k, v) ∉ l := fun hm => h.1 (List.mem_map.mpr ⟨_, hm, rfl⟩)
      simp [hv, eq_comm]
    · simp [hk, mem_iff_lookup_of_nodup h.2]

theorem mem_entries {m : JsonMap} {k : String} {v : JsonValue} : (k, v) ∈ m.entries ↔ m.get? k = some v :=
  mem_iff_lookup_of_nodup m.keys_nodup

/-- A `BTreeMap` is determined by its members: two objects that read the same at every
key are equal. -/
theorem ext_get? {m₁ m₂ : JsonMap} (h : ∀ k, m₁.get? k = m₂.get? k) : m₁ = m₂ := by
  have hnodup (m : JsonMap) : m.entries.Nodup :=
    m.sorted.imp fun {a b} (hab : KeyLt a.1 b.1) (he : a = b) => keyLt_irrefl b.1 (he ▸ hab)
  have hperm : m₁.entries.Perm m₂.entries :=
    (List.perm_ext_iff_of_nodup (hnodup m₁) (hnodup m₂)).mpr fun ⟨k, v⟩ => by
      rw [mem_entries, mem_entries, h]
  have : IsAntisymm (String × JsonValue) fun a b => KeyLt a.1 b.1 :=
    ⟨fun a _ h₁ h₂ => absurd (h₁.trans h₂) (keyLt_irrefl a.1)⟩
  cases m₁; cases m₂
  congr
  exact List.eq_of_perm_of_sorted hperm ‹_› ‹_›

end JsonMap

end EvsCli
