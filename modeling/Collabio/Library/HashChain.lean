import Mathlib.Tactic

/-!
# Hash chains

An append-only log whose entries are numbered, each with the hash of the entry
before it and its own hash, a digest of what it says.

* `Valid`            — numbering, back links and own hashes are right;
* `valid_append`     — a valid chain is a valid chain, continued;
* `valid_of_prefix`  — every prefix of a valid chain is valid;
* `forall₂_of_lastHash`    — where hashes bind, a valid chain is determined by its
  length and its last hash;
* `forall₂_take_of_anchor` — the same for the part of a chain up to an anchored entry.
-/

namespace HashChain

/-- How to read an entry of the chain. -/
structure Format (E H : Type*) where
  number : E → Int
  prev   : E → H
  hash   : E → H
  digest : E → H

variable {E H : Type*} (format : Format E H)

/-- A chain that continues the hash `p`, with its first entry numbered `n`. -/
def Valid : H → Int → List E → Prop
  | _, _, [] => True
  | p, n, e :: es => (format.number e = n ∧ format.prev e = p ∧ format.hash e = format.digest e) ∧
      Valid (format.hash e) (n + 1) es

/-- The hash the next entry has to refer to. -/
def lastHash (p : H) (es : List E) : H := es.foldl (fun _ e => format.hash e) p

@[simp] theorem lastHash_nil (p : H) : lastHash format p [] = p := rfl

@[simp] theorem lastHash_cons (p : H) (e : E) (es : List E) :
    lastHash format p (e :: es) = lastHash format (format.hash e) es := rfl

@[simp] theorem lastHash_concat (p : H) (es : List E) (e : E) :
    lastHash format p (es ++ [e]) = format.hash e := by
  rw [lastHash, List.foldl_append]
  rfl

/-- Equal hashes of well hashed entries bind the entries up to `R`. -/
def Binding (R : E → E → Prop) : Prop :=
  ∀ e e', format.hash e = format.digest e → format.hash e' = format.digest e' →
    format.hash e = format.hash e' → R e e'

variable {format}

theorem valid_append {p : H} {n : Int} {es fs : List E} :
    Valid format p n (es ++ fs) ↔
      Valid format p n es ∧ Valid format (lastHash format p es) (n + es.length) fs := by
  induction es generalizing p n with
  | nil => simp [Valid]
  | cons e es ih =>
    have hnumber : n + 1 + (es.length : Int) = n + ((e :: es).length : Int) := by
      rw [List.length_cons]
      omega
    rw [List.cons_append, Valid, ih, Valid, hnumber, lastHash_cons, ← and_assoc]

theorem valid_concat {p : H} {n : Int} {es : List E} {e : E} :
    Valid format p n (es ++ [e]) ↔
      Valid format p n es ∧ format.number e = n + es.length ∧
        format.prev e = lastHash format p es ∧ format.hash e = format.digest e := by
  rw [valid_append]
  simp [Valid]

/-- Every prefix of a valid chain is valid. -/
theorem valid_of_prefix {p : H} {n : Int} {es fs : List E} (h : Valid format p n fs)
    (hbegins : es <+: fs) : Valid format p n es := by
  obtain ⟨rest, rfl⟩ := hbegins
  exact (valid_append.mp h).1

/-- Entries of a valid chain are well hashed. -/
theorem hash_eq_of_mem {p : H} {n : Int} {es : List E} (h : Valid format p n es) :
    ∀ e ∈ es, format.hash e = format.digest e := by
  induction es generalizing p n with
  | nil => simp
  | cons e es ih =>
    rw [Valid] at h
    rw [List.forall_mem_cons]
    exact ⟨h.1.2.2, ih h.2⟩

/-- Entries of a valid chain are numbered in order. -/
theorem number_getElem? {p : H} {n : Int} {es : List E} (h : Valid format p n es) {i : Nat} {e : E}
    (he : es[i]? = some e) : format.number e = n + i := by
  induction es generalizing p n i with
  | nil => simp at he
  | cons f es ih =>
    rw [Valid] at h
    cases i with
    | zero =>
      obtain rfl : f = e := by simpa using he
      rw [h.1.1]
      simp
    | succ i =>
      rw [List.getElem?_cons_succ] at he
      rw [ih h.2 he]
      push_cast
      omega

/-- **Commitment.** Valid chains of one length with the same last hash agree entry by entry, where
the hashes of their own entries bind. -/
theorem forall₂_of_lastHash_of_mem {R : E → E → Prop}
    (hprev : ∀ e e', R e e' → format.prev e = format.prev e') {p : H} {n : Int} {es fs : List E}
    (hbinding : ∀ e ∈ es, ∀ f ∈ fs, format.hash e = format.digest e →
      format.hash f = format.digest f → format.hash e = format.hash f → R e f)
    (hes : Valid format p n es) (hfs : Valid format p n fs) (hlength : es.length = fs.length)
    (hlast : lastHash format p es = lastHash format p fs) : List.Forall₂ R es fs := by
  -- from the last entry to the first: equal entries have equal back links
  induction es using List.reverseRecOn generalizing fs with
  | nil =>
    obtain rfl : fs = [] := List.length_eq_zero_iff.mp hlength.symm
    exact .nil
  | append_singleton es e ih =>
    rcases List.eq_nil_or_concat fs with rfl | ⟨fs, f, rfl⟩
    · simp at hlength
    rw [List.concat_eq_append] at hfs hlength hlast hbinding ⊢
    obtain ⟨hes, -, hprevE, hhashE⟩ := valid_concat.mp hes
    obtain ⟨hfs, -, hprevF, hhashF⟩ := valid_concat.mp hfs
    rw [lastHash_concat, lastHash_concat] at hlast
    have hef : R e f := hbinding e (List.mem_append_right _ (List.mem_singleton_self e)) f
      (List.mem_append_right _ (List.mem_singleton_self f)) hhashE hhashF hlast
    have hbefore : lastHash format p es = lastHash format p fs := by
      calc lastHash format p es = format.prev e := hprevE.symm
        _ = format.prev f := hprev e f hef
        _ = lastHash format p fs := hprevF
    have hlengths : es.length = fs.length := by
      simpa using hlength
    have hearlier := ih (fun e' he' f' hf' => hbinding e' (List.mem_append_left _ he') f'
      (List.mem_append_left _ hf')) hes hfs hlengths hbefore
    exact List.rel_append hearlier (.cons hef .nil)

/-- The same where the hashes of all entries bind. -/
theorem forall₂_of_lastHash {R : E → E → Prop} (hbinding : Binding format R)
    (hprev : ∀ e e', R e e' → format.prev e = format.prev e') {p : H} {n : Int} {es fs : List E}
    (hes : Valid format p n es) (hfs : Valid format p n fs) (hlength : es.length = fs.length)
    (hlast : lastHash format p es = lastHash format p fs) : List.Forall₂ R es fs :=
  forall₂_of_lastHash_of_mem hprev (fun e _ f _ => hbinding e f) hes hfs hlength hlast

/-- A valid chain has an anchored entry at the place its number says. -/
theorem take_of_anchor {p : H} {es : List E} (h : Valid format p 1 es) {e : E} (he : e ∈ es) :
    ∃ before after, es = before ++ e :: after ∧ format.number e = before.length + 1 := by
  obtain ⟨i, hi⟩ := List.mem_iff_getElem?.mp he
  obtain ⟨hlt, hget⟩ := List.getElem?_eq_some_iff.mp hi
  refine ⟨es.take i, es.drop (i + 1), ?_, ?_⟩
  · rw [← hget, List.cons_getElem_drop_succ, List.take_append_drop]
  · rw [number_getElem? h hi, List.length_take, Nat.min_eq_left hlt.le]
    omega

/-- **Anchors.** Valid chains with an entry of the same number and hash agree up to that entry. -/
theorem forall₂_take_of_anchor {R : E → E → Prop} (hbinding : Binding format R)
    (hprev : ∀ e e', R e e' → format.prev e = format.prev e') {p : H} {es fs : List E}
    (hes : Valid format p 1 es) (hfs : Valid format p 1 fs) {e f : E} (he : e ∈ es) (hf : f ∈ fs)
    (hnumber : format.number e = format.number f) (hhash : format.hash e = format.hash f) :
    List.Forall₂ R (es.take (format.number e).toNat) (fs.take (format.number e).toNat) := by
  obtain ⟨esBefore, esAfter, rfl, hnumberE⟩ := take_of_anchor hes he
  obtain ⟨fsBefore, fsAfter, rfl, hnumberF⟩ := take_of_anchor hfs hf
  have hlengths : esBefore.length = fsBefore.length := by omega
  have hcut : ∀ (before after : List E) (g : E), before.length = esBefore.length →
      (before ++ g :: after).take (format.number e).toNat = before ++ [g] := by
    intro before after g hlength
    have hcount : (format.number e).toNat = (before ++ [g]).length := by
      rw [hnumberE, List.length_append, hlength]
      simp
    have hsplit : before ++ g :: after = (before ++ [g]) ++ after := by simp
    rw [hcount, hsplit, List.take_left]
  rw [hcut esBefore esAfter e rfl, hcut fsBefore fsAfter f hlengths.symm]
  rw [List.append_cons, valid_append] at hes hfs
  refine forall₂_of_lastHash hbinding hprev hes.1 hfs.1 (by simp [hlengths]) ?_
  rw [lastHash_concat, lastHash_concat, hhash]

end HashChain
