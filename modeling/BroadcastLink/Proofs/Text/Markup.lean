import BroadcastLink.Text.Markup

/-!
# Text comes back from its markup

A text written inside markup has no character left that could open, close or quote anything, and an
ampersand in it is always the first character of an entity. A reader that goes from left to right
and replaces every entity by its character gets the text back, whatever stood in it: entities that
the text itself had begin with an ampersand, which was written as an entity too.
-/

namespace BroadcastLink.Text.Markup

variable {c : Char} {cs rest before after : List Char}

/-- The characters that are written as entities. -/
def marks : List Char := ['&', '<', '>', '\x22', '\x27']

/-- Replace the entities by their characters, from left to right. -/
def unescapeChars : List Char → List Char
  | '&' :: 'a' :: 'm' :: 'p' :: ';' :: rest => '&' :: unescapeChars rest
  | '&' :: 'l' :: 't' :: ';' :: rest => '<' :: unescapeChars rest
  | '&' :: 'g' :: 't' :: ';' :: rest => '>' :: unescapeChars rest
  | '&' :: 'q' :: 'u' :: 'o' :: 't' :: ';' :: rest => '\x22' :: unescapeChars rest
  | '&' :: '#' :: '3' :: '9' :: ';' :: rest => '\x27' :: unescapeChars rest
  | c :: rest => c :: unescapeChars rest
  | [] => []

/-- A text with its entities replaced by their characters. -/
def unescape (s : String) : String := String.ofList (unescapeChars s.toList)

/-- Characters that cannot leave the text they stand in: they open, close and quote nothing, and an
ampersand among them is the first character of an entity. -/
structure Inert (cs : List Char) : Prop where
  plain : ∀ c ∈ cs, c ∉ ['<', '>', '\x22', '\x27']
  entities : ∀ before after, cs = before ++ '&' :: after →
    ∃ c ∈ marks, entity c <+: '&' :: after

/-! ## One character -/

/-- What is no mark is written as it is. -/
theorem entity_of_not_mem (h : c ∉ marks) : entity c = [c] := by
  simp only [marks, List.mem_cons, List.not_mem_nil, or_false, not_or] at h
  obtain ⟨hamp, hlt, hgt, hquot, hapos⟩ := h
  rw [entity, if_neg hamp, if_neg hlt, if_neg hgt, if_neg hquot, if_neg hapos]

/-- The entity of a mark is an ampersand and a name without marks. -/
theorem exists_name_of_mem (h : c ∈ marks) :
    ∃ name, entity c = '&' :: name ∧ ∀ d ∈ name, d ∉ marks := by
  simp only [marks, List.mem_cons, List.not_mem_nil, or_false] at h
  obtain rfl | rfl | rfl | rfl | rfl := h
  · exact ⟨"amp;".toList, rfl, by simp [marks]⟩
  · exact ⟨"lt;".toList, rfl, by simp [marks]⟩
  · exact ⟨"gt;".toList, rfl, by simp [marks]⟩
  · exact ⟨"quot;".toList, rfl, by simp [marks]⟩
  · exact ⟨"#39;".toList, rfl, by simp [marks]⟩

/-- Of the marks, only the ampersand is ever written. -/
theorem eq_amp_of_mem_entity {d : Char} (hd : d ∈ entity c) (hmark : d ∈ marks) : d = '&' := by
  by_cases hc : c ∈ marks
  · obtain ⟨name, hentity, hname⟩ := exists_name_of_mem hc
    rw [hentity] at hd
    cases hd with
    | head => rfl
    | tail _ hd => exact absurd hmark (hname d hd)
  · rw [entity_of_not_mem hc, List.mem_singleton] at hd
    exact absurd (hd ▸ hmark) hc

/-- An ampersand that is written for a character begins the entity of that character. -/
theorem mem_marks_of_entity_eq (h : entity c = before ++ '&' :: after) :
    before = [] ∧ c ∈ marks := by
  by_cases hc : c ∈ marks
  · refine ⟨?_, hc⟩
    obtain ⟨name, hentity, hname⟩ := exists_name_of_mem hc
    cases before with
    | nil => rfl
    | cons d before =>
      -- A second ampersand would have to stand in the name.
      rw [hentity, List.cons_append] at h
      have hamp : '&' ∈ name := by
        rw [(List.cons.inj h).2]
        exact List.mem_append_right before List.mem_cons_self
      exact absurd (by decide) (hname '&' hamp)
  · rw [entity_of_not_mem hc] at h
    have hamp : '&' ∈ [c] := by
      rw [h]
      exact List.mem_append_right before List.mem_cons_self
    rw [← List.mem_singleton.mp hamp] at hc
    exact absurd (by decide) hc

/-- What does not begin with an ampersand is read as it stands. -/
theorem unescapeChars_cons (h : c ≠ '&') (rest : List Char) :
    unescapeChars (c :: rest) = c :: unescapeChars rest := by
  simp [unescapeChars, h]

/-- An entity is read as the character it was written for. -/
theorem unescapeChars_entity (c : Char) (rest : List Char) :
    unescapeChars (entity c ++ rest) = c :: unescapeChars rest := by
  by_cases hc : c ∈ marks
  · simp only [marks, List.mem_cons, List.not_mem_nil, or_false] at hc
    obtain rfl | rfl | rfl | rfl | rfl := hc <;> simp [entity, unescapeChars]
  · rw [entity_of_not_mem hc, List.singleton_append]
    apply unescapeChars_cons
    rintro rfl
    exact hc (by decide)

/-! ## Any number of characters -/

theorem escapeChars_cons (c : Char) (cs : List Char) :
    escapeChars (c :: cs) = entity c ++ escapeChars cs :=
  List.flatMap_cons

/-- Reading what was written gives back what it was written for. -/
theorem unescapeChars_escapeChars (cs : List Char) : unescapeChars (escapeChars cs) = cs := by
  induction cs with
  | nil => rfl
  | cons c cs ih => rw [escapeChars_cons, unescapeChars_entity, ih]

theorem plain_escapeChars (cs : List Char) :
    ∀ d ∈ escapeChars cs, d ∉ ['<', '>', '\x22', '\x27'] := by
  intro d hd hmark
  obtain ⟨c, -, hentity⟩ := List.mem_flatMap.mp hd
  obtain rfl := eq_amp_of_mem_entity hentity (List.mem_cons_of_mem '&' hmark)
  contradiction

/-- Every ampersand begins an entity. The induction is on the characters written: the ampersand
stands in the entity of the first of them, or after it. -/
theorem entities_escapeChars (before : List Char)
    (h : escapeChars cs = before ++ '&' :: after) : ∃ c ∈ marks, entity c <+: '&' :: after := by
  induction cs generalizing before with
  | nil => exact absurd h.symm (List.append_ne_nil_of_right_ne_nil before (List.cons_ne_nil _ _))
  | cons c cs ih =>
    rw [escapeChars_cons, List.append_eq_append_iff] at h
    obtain ⟨middle, -, hlater⟩ | ⟨middle, hfirst, hlater⟩ := h
    · exact ih middle hlater
    · cases middle with
      | nil => exact ih [] hlater.symm
      | cons d middle =>
        obtain ⟨rfl, rfl⟩ := List.cons.inj (hlater.trans (List.cons_append ..))
        obtain ⟨rfl, hc⟩ := mem_marks_of_entity_eq hfirst
        refine ⟨c, hc, ?_⟩
        rw [hfirst]
        exact List.prefix_append ('&' :: middle) (escapeChars cs)

theorem inert_escapeChars (cs : List Char) : Inert (escapeChars cs) :=
  ⟨plain_escapeChars cs, fun before _ h => entities_escapeChars before h⟩

/-! ## Texts -/

@[simp] theorem toList_escape (s : String) : (escape s).toList = escapeChars s.toList :=
  String.toList_ofList

theorem inert_escape (s : String) : Inert (escape s).toList := by
  rw [toList_escape]
  exact inert_escapeChars s.toList

theorem unescape_escape (s : String) : unescape (escape s) = s := by
  rw [unescape, toList_escape, unescapeChars_escapeChars, String.ofList_toList]

theorem escape_append (s t : String) : escape (s ++ t) = escape s ++ escape t := by
  simp only [escape, escapeChars, String.toList_append, List.flatMap_append, String.ofList_append]

end BroadcastLink.Text.Markup
