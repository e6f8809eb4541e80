import BroadcastLink.Proofs.Studio.Fleets
import BroadcastLink.Registry
import Mathlib.Data.List.Nodup
import Mathlib.Data.List.Perm.Basic

/-!
# How far a configuration has come

The summary accounts for the wanted studios that are dealt with, each under the change that its link
went through. A configuration removes the unwanted links and then deals with the wanted studios one
by one; what it has done holds to the end, because it touches no name twice.
-/

namespace BroadcastLink

/-! ## Changes -/

/-- What a configuration does about a wanted studio. -/
inductive Change where
  | added
  | recreated
  | resized
  | unchanged
  | launchFailed
  deriving DecidableEq, Repr

/-- What a change makes of the link found for a studio. New links get a generation that is not below
the given one. -/
def Change.Makes (floor : Nat) (studio : Studio) (found now : Option Link) : Change → Prop
  | .added => found = none ∧ ∃ link,
      now = some link ∧ link.studio = studio ∧ floor ≤ link.generation
  | .recreated => ∃ old link, found = some old ∧ old.studio.sameTarget studio = false ∧
      now = some link ∧ link.studio = studio ∧ floor ≤ link.generation
  | .resized => ∃ old, found = some old ∧ old.studio ≠ studio ∧
      old.studio.sameTarget studio = true ∧ now = some { old with studio := studio }
  | .unchanged => ∃ old, found = some old ∧ old.studio = studio ∧ now = some old
  | .launchFailed => found = none ∧ now = none

/-- After a change there is a link to the studio, unless it could not be launched. -/
theorem Change.Makes.now {floor : Nat} {studio : Studio} {found now : Option Link}
    {change : Change} (h : change.Makes floor studio found now) :
    (change = .launchFailed ∧ now = none) ∨
      (change ≠ .launchFailed ∧ ∃ link, now = some link ∧ link.studio = studio) := by
  cases change with
  | added =>
    obtain ⟨-, link, hnow, hstudio, -⟩ := h
    exact .inr ⟨by decide, link, hnow, hstudio⟩
  | recreated =>
    obtain ⟨-, link, -, -, hnow, hstudio, -⟩ := h
    exact .inr ⟨by decide, link, hnow, hstudio⟩
  | resized =>
    obtain ⟨old, -, -, -, hnow⟩ := h
    exact .inr ⟨by decide, _, hnow, rfl⟩
  | unchanged =>
    obtain ⟨old, -, hstudio, hnow⟩ := h
    exact .inr ⟨by decide, old, hnow, hstudio⟩
  | launchFailed => exact .inl ⟨rfl, h.2⟩

namespace Summary

/-- The studios noted under a change. -/
def names (s : Summary) : Change → List String
  | .added => s.added
  | .recreated => s.recreated
  | .resized => s.resized
  | .unchanged => s.unchanged
  | .launchFailed => s.launchFailed

/-- Note what was done about a wanted studio. -/
def note (s : Summary) (name : String) : Change → Summary
  | .added => { s with added := s.added ++ [name] }
  | .recreated => { s with recreated := s.recreated ++ [name] }
  | .resized => { s with resized := s.resized ++ [name] }
  | .unchanged => { s with unchanged := s.unchanged ++ [name] }
  | .launchFailed => { s with launchFailed := s.launchFailed ++ [name] }

/-- The wanted studios that are dealt with. -/
def settled (s : Summary) : List String :=
  s.added ++ s.recreated ++ s.resized ++ s.unchanged ++ s.launchFailed

theorem names_note (s : Summary) (name : String) (change other : Change) :
    (s.note name change).names other =
      if other = change then s.names other ++ [name] else s.names other := by
  cases change <;> cases other <;> rfl

theorem removed_note (s : Summary) (name : String) (change : Change) :
    (s.note name change).removed = s.removed := by
  cases change <;> rfl

theorem mem_settled_iff {s : Summary} {name : String} :
    name ∈ s.settled ↔ ∃ change, name ∈ s.names change := by
  simp only [settled, List.mem_append]
  constructor
  · rintro ((((h | h) | h) | h) | h)
    · exact ⟨.added, h⟩
    · exact ⟨.recreated, h⟩
    · exact ⟨.resized, h⟩
    · exact ⟨.unchanged, h⟩
    · exact ⟨.launchFailed, h⟩
  · rintro ⟨change, h⟩
    cases change with
    | added => exact .inl (.inl (.inl (.inl h)))
    | recreated => exact .inl (.inl (.inl (.inr h)))
    | resized => exact .inl (.inl (.inr h))
    | unchanged => exact .inl (.inr h)
    | launchFailed => exact .inr h

/-- A studio noted is one more that is dealt with. -/
theorem settled_note (s : Summary) (name : String) (change : Change) :
    (s.note name change).settled.Perm (s.settled ++ [name]) := by
  rw [List.perm_iff_count]
  intro other
  cases change <;> simp only [settled, note, List.count_append] <;> omega

end Summary

/-! ## Progress -/

/-- The names of links that a configuration does not want. -/
def Registry.unwanted (links : Roster String Link) (desired : Fleet) : List String :=
  ((byName links.entries).filter fun e => (desired.get? e.1).isNone).map (·.1)

/-- Exactly the names with a link that are not in the configuration are unwanted. -/
theorem Registry.mem_unwanted_iff {links : Roster String Link} {desired : Fleet} {name : String} :
    name ∈ unwanted links desired ↔ links.get? name ≠ none ∧ desired.get? name = none := by
  constructor
  · intro hmem
    obtain ⟨⟨_, link⟩, hentry, rfl⟩ := List.mem_map.mp hmem
    obtain ⟨hlink, hnone⟩ := List.mem_filter.mp hentry
    have hget := Roster.mem_entries_iff.mp (List.mem_mergeSort.mp hlink)
    exact ⟨hget ▸ Option.some_ne_none link, Option.isNone_iff_eq_none.mp hnone⟩
  · rintro ⟨hlink, hnone⟩
    obtain ⟨link, hget⟩ := Option.ne_none_iff_exists'.mp hlink
    have hentry : (name, link) ∈ byName links.entries :=
      List.mem_mergeSort.mpr (Roster.mem_entries_iff.mpr hget)
    exact List.mem_map.mpr
      ⟨(name, link), List.mem_filter.mpr ⟨hentry, Option.isNone_iff_eq_none.mpr hnone⟩, rfl⟩

/-- No name is unwanted twice. -/
theorem Registry.nodup_unwanted (links : Roster String Link) (desired : Fleet) :
    (unwanted links desired).Nodup := by
  have hsorted : ((byName links.entries).map (·.1)).Nodup :=
    ((List.mergeSort_perm _ _).map _).nodup_iff.mpr links.distinct
  exact hsorted.sublist (List.filter_sublist.map _)

namespace Reconfiguration

variable {floor : Nat} {links links' : Roster String Link} {w : Reconfiguration}
  {hand : List String} {name : String} {studio : Studio} {link : Link}
  {gone : List (String × Link)} {coming : List (String × Studio)}

/-- What a configuration has done so far, given the links as they are, apart from the name it has in
hand. -/
structure Progress (floor : Nat) (links : Roster String Link) (hand : List String)
    (w : Reconfiguration) : Prop where
  accounted : (w.summary.settled ++ w.coming.map (·.1)).Perm w.desired.keys
  removed : w.summary.removed ++ w.gone.map (·.1) = Registry.unwanted w.current w.desired
  leftover : ∀ name, links.get? name ≠ none → w.desired.get? name = none →
    name ∈ w.gone.map (·.1)
  made : ∀ change, ∀ name ∈ w.summary.names change, ∃ studio, w.desired.get? name = some studio ∧
    change.Makes floor studio (w.current.get? name) (links.get? name)
  coming : ∀ name studio, (name, studio) ∈ w.coming → w.desired.get? name = some studio ∧
    (name ∉ hand → links.get? name = w.current.get? name)

/-- The name that a configuration deals with next. -/
def upNext (w : Reconfiguration) : List String :=
  (w.gone.map (·.1) ++ w.coming.map (·.1)).take 1

/-- At first everything is still to be done. -/
theorem progress_plan (floor : Nat) (r : Registry) (desired : Fleet) :
    Progress floor r.links [] (r.plan desired) := by
  refine ⟨List.Perm.refl _, rfl, ?_, ?_, ?_⟩
  · intro name hlink hnone
    exact Registry.mem_unwanted_iff.mpr ⟨hlink, hnone⟩
  · intro change name hmem
    cases change <;> contradiction
  · intro name studio hmem
    exact ⟨Fleet.mem_entries_iff.mp hmem, fun _ => rfl⟩

namespace Progress

/-- No studio is dealt with twice. -/
theorem nodup (h : Progress floor links hand w) :
    (w.summary.settled ++ w.coming.map (·.1)).Nodup :=
  h.accounted.nodup_iff.mpr w.desired.nodup_keys

/-- Whatever is noted is wanted. -/
theorem desired_of_settled (h : Progress floor links hand w) (hname : name ∈ w.summary.settled) :
    w.desired.get? name ≠ none := by
  obtain ⟨change, hmem⟩ := Summary.mem_settled_iff.mp hname
  obtain ⟨studio, hstudio, -⟩ := h.made change name hmem
  rw [hstudio]
  exact Option.some_ne_none studio

/-- Whatever is still to be removed is unwanted. -/
theorem undesired_of_gone (h : Progress floor links hand w) (hname : name ∈ w.gone.map (·.1)) :
    w.desired.get? name = none := by
  have hunwanted : name ∈ Registry.unwanted w.current w.desired := by
    rw [← h.removed]
    exact List.mem_append_right _ hname
  exact (Registry.mem_unwanted_iff.mp hunwanted).2

/-- What is next is neither dealt with, nor is it to come once more. -/
theorem not_settled_of_upNext (h : Progress floor links hand w) (hname : w.upNext = [name]) :
    name ∉ w.summary.settled := by
  intro hsettled
  unfold upNext at hname
  cases hgone : w.gone with
  | cons first rest =>
    rw [hgone] at hname
    have hfirst : first.1 = name := List.singleton_inj.mp hname
    have hmem : name ∈ w.gone.map (·.1) := by
      rw [hgone, ← hfirst]
      exact List.mem_cons_self
    exact h.desired_of_settled hsettled (h.undesired_of_gone hmem)
  | nil =>
    rw [hgone, List.map_nil, List.nil_append] at hname
    have hmem : name ∈ w.coming.map (·.1) :=
      List.mem_of_mem_take (hname ▸ List.mem_cons_self)
    exact (List.nodup_append.mp h.nodup).2.2 name hsettled name hmem rfl

/-- What was done holds whatever becomes of a name that was not dealt with. -/
theorem made_of_others (h : Progress floor links hand w) (hsettled : name ∉ w.summary.settled)
    (hothers : ∀ other, other ≠ name → links'.get? other = links.get? other) (change : Change) :
    ∀ other ∈ w.summary.names change, ∃ studio, w.desired.get? other = some studio ∧
      change.Makes floor studio (w.current.get? other) (links'.get? other) := by
  intro other hmem
  have hne : other ≠ name := by
    rintro rfl
    exact hsettled (Summary.mem_settled_iff.mpr ⟨change, hmem⟩)
  rw [hothers other hne]
  exact h.made change other hmem

/-- What is next may be taken in hand, and its link may change. -/
theorem take (h : Progress floor links [] w) (hnext : w.upNext = [name])
    (hothers : ∀ other, other ≠ name → links'.get? other = links.get? other) :
    Progress floor links' [name] w := by
  have hsettled := h.not_settled_of_upNext hnext
  refine ⟨h.accounted, h.removed, ?_, h.made_of_others hsettled hothers, ?_⟩
  · intro other hlink hnone
    by_cases heq : other = name
    · subst heq
      have hmem : other ∈ w.gone.map (·.1) ++ w.coming.map (·.1) :=
        List.mem_of_mem_take (hnext ▸ List.mem_cons_self)
      rcases List.mem_append.mp hmem with hgone | hcoming
      · exact hgone
      · -- Whatever comes is wanted.
        obtain ⟨⟨_, studio⟩, hentry, rfl⟩ := List.mem_map.mp hcoming
        have hwanted := (h.coming _ studio hentry).1
        rw [hnone] at hwanted
        contradiction
    · rw [hothers other heq] at hlink
      exact h.leftover other hlink hnone
  · intro other studio hmem
    obtain ⟨hwanted, hlink⟩ := h.coming other studio hmem
    refine ⟨hwanted, fun hhand => ?_⟩
    have hne : other ≠ name := fun heq => hhand (heq ▸ List.mem_cons_self)
    rw [hothers other hne]
    exact hlink List.not_mem_nil

/-- The studio in hand is dealt with. -/
theorem note (h : Progress floor links [name] w) (hcoming : w.coming = (name, studio) :: coming)
    {change : Change}
    (hothers : ∀ other, other ≠ name → links'.get? other = links.get? other)
    (hmade : change.Makes floor studio (w.current.get? name) (links'.get? name)) :
    Progress floor links' []
      { w with coming := coming, summary := w.summary.note name change } := by
  have hwanted := (h.coming name studio (hcoming ▸ List.mem_cons_self)).1
  have hnodup := h.nodup
  rw [hcoming, List.map_cons] at hnodup
  refine ⟨?_, ?_, ?_, ?_, ?_⟩
  · have hperm := h.accounted
    rw [hcoming, List.map_cons] at hperm
    refine List.Perm.trans ?_ hperm
    refine ((w.summary.settled_note name change).append_right _).trans ?_
    rw [List.append_assoc, List.singleton_append]
  · show (w.summary.note name change).removed ++ _ = _
    rw [Summary.removed_note]
    exact h.removed
  · intro other hlink hnone
    have hne : other ≠ name := by
      rintro rfl
      rw [hnone] at hwanted
      contradiction
    rw [hothers other hne] at hlink
    exact h.leftover other hlink hnone
  · intro other name' hmem
    replace hmem : name' ∈ (w.summary.note name change).names other := hmem
    rw [Summary.names_note] at hmem
    have hsettled : name ∉ w.summary.settled := fun hmem =>
      (List.nodup_append.mp hnodup).2.2 name hmem name List.mem_cons_self rfl
    have hearlier := h.made_of_others hsettled hothers other name'
    split at hmem
    · rename_i heq
      rcases List.mem_append.mp hmem with hold | hnew
      · exact hearlier hold
      · rw [List.mem_singleton.mp hnew, heq]
        exact ⟨studio, hwanted, hmade⟩
    · exact hearlier hmem
  · intro other studio' hmem
    replace hmem : (other, studio') ∈ coming := hmem
    have hold : (other, studio') ∈ w.coming := by
      rw [hcoming]
      exact List.mem_cons_of_mem _ hmem
    obtain ⟨hstudio, hlink⟩ := h.coming other studio' hold
    refine ⟨hstudio, fun _ => ?_⟩
    have hne : other ≠ name := by
      rintro rfl
      have hhead := (List.nodup_append.mp hnodup).2.1
      exact (List.nodup_cons.mp hhead).1 (List.mem_map.mpr ⟨_, hmem, rfl⟩)
    rw [hothers other hne]
    exact hlink fun hhand => hne (List.mem_singleton.mp hhand)

/-- The link in hand was removed. -/
theorem drop (h : Progress floor links [name] w) (hgone : w.gone = (name, link) :: gone)
    (habsent : links.get? name = none) :
    Progress floor links []
      { w with
        gone := gone
        summary := { w.summary with removed := w.summary.removed ++ [name] } } := by
  have hunwanted : w.desired.get? name = none :=
    h.undesired_of_gone (hgone ▸ List.mem_cons_self)
  refine ⟨h.accounted, ?_, ?_, ?_, ?_⟩
  · have hremoved := h.removed
    rw [hgone] at hremoved
    refine Eq.trans ?_ hremoved
    exact (List.append_assoc _ _ _)
  · intro other hlink hnone
    have hmem := h.leftover other hlink hnone
    rw [hgone] at hmem
    rcases List.mem_cons.mp hmem with heq | hrest
    · rw [show other = name from heq] at hlink
      exact absurd habsent hlink
    · exact hrest
  · intro change other hmem
    have hold : other ∈ w.summary.names change := by
      cases change <;> exact hmem
    exact h.made change other hold
  · intro other studio hmem
    obtain ⟨hwanted, hlink⟩ := h.coming other studio hmem
    refine ⟨hwanted, fun _ => hlink fun hhand => ?_⟩
    rw [List.mem_singleton.mp hhand, hunwanted] at hwanted
    contradiction

end Progress

end Reconfiguration

end BroadcastLink
