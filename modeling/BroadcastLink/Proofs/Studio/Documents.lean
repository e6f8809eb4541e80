import BroadcastLink.Proofs.Json.Written
import BroadcastLink.Proofs.Studio.Fleets
import BroadcastLink.Studio.Printer
import BroadcastLink.Studio.Reader

/-!
# Configurations and their documents

A configuration is written with each studio under its key and read back from there. The name that a
studio's own object gives is overruled by the key, so reading back gives every studio its key for a
name, and what was read once is written and read again without a change.
-/

namespace BroadcastLink

open Json (Behind Reads Takes)

/-! ## Fields -/

namespace StudioDraft

variable {text : String}

/-- A field not met so far takes the value that its text is read as. -/
theorem field_none {α : Type} {read : Json.Reader α} {a : α} (h : Reads read text a) (key : String)
    {rest : List Char} (hrest : Behind rest) :
    field none key read (':' :: (text.toList ++ rest)) = .ok (a, rest) := by
  rw [field, if_neg (by simp), Json.readColon, Json.skipGaps_cons (by decide)]
  exact h rest hrest

theorem reads_port (port : UInt16) : Reads readPort (Decimal.natText port.toNat) port := by
  intro rest hrest
  have hread := Json.reads_natural "u16" port.toNat_lt (by decide) rest hrest
  show (Json.readNatural UInt16.size "u16" _ >>= _) = _
  rw [hread]
  show Except.ok (UInt16.ofNat port.toNat, rest) = _
  rw [UInt16.ofNat_toNat]

theorem reads_size (size : UInt64) : Reads readSize (Decimal.natText size.toNat) size := by
  intro rest hrest
  have hread := Json.reads_natural "usize" size.toNat_lt (by decide) rest hrest
  show (Json.readNatural UInt64.size "usize" _ >>= _) = _
  rw [hread]
  show Except.ok (UInt64.ofNat size.toNat, rest) = _
  rw [UInt64.ofNat_toNat]

theorem reads_command (command : String) :
    Reads Json.readOptionalString (Json.quote command) (some command) := by
  intro rest hrest
  have hread := Json.reads_string command rest hrest
  obtain ⟨hopen, -⟩ := Json.stringRest_quote command rest
  rw [hopen] at hread ⊢
  rw [Json.readOptionalString, Json.skipGaps_cons (by decide)]
  show (Json.readString _ >>= _) = _
  rw [hread]
  rfl

theorem reads_bool (b : Bool) : Reads Json.readBool (boolText b) b := by
  intro rest _
  cases b <;> rfl

/-- The fields of a studio, all met. -/
def ofStudio (s : Studio) : StudioDraft where
  name := some s.name
  host := some s.host
  port := some s.port
  minPool := some s.minPool
  maxPool := some s.maxPool
  launchCommand := s.launchCommand.map some
  autoStart := some s.autoStart

theorem finish_ofStudio (s : Studio) (absent : String → ReadFault) :
    (ofStudio s).finish absent = .ok s := by
  obtain ⟨name, host, port, least, most, launch, auto⟩ := s
  cases launch <;> rfl

/-- A member that is a field not met so far is noted with its value. -/
theorem member_none {α : Type} (old : StudioDraft → Option α) (note : StudioDraft → α → StudioDraft)
    {d : StudioDraft} {key : String} {read : Json.Reader α} {a : α}
    (hmember : ∀ d cs, member d key cs = do
      let (v, rest) ← field (old d) key read cs
      return (note d v, rest))
    (h : Reads read text a) (hnew : old d = none) (rest : List Char) (hrest : Behind rest) :
    member d key (':' :: (text.toList ++ rest)) = .ok (note d a, rest) := by
  rw [hmember, hnew, field_none h key hrest]
  rfl

/-- The fields that a studio writes make it up again. -/
theorem takes_fields (s : Studio) : Takes member {} s.fields (ofStudio s) := by
  obtain ⟨name, host, port, least, most, launch, auto⟩ := s
  have hauto (d : StudioDraft) (hnew : d.autoStart = none) :
      Takes member d [("autoStart", boolText auto)] { d with autoStart := some auto } :=
    .cons (member_none (·.autoStart) (fun d v => { d with autoStart := some v }) (fun _ _ => rfl)
      (reads_bool auto) hnew) (.nil _)
  refine .cons (member_none (·.name) (fun d v => { d with name := some v }) (fun _ _ => rfl)
    (Json.reads_string name) rfl) ?_
  refine .cons (member_none (·.host) (fun d v => { d with host := some v }) (fun _ _ => rfl)
    (Json.reads_string host) rfl) ?_
  refine .cons (member_none (·.port) (fun d v => { d with port := some v }) (fun _ _ => rfl)
    (reads_port port) rfl) ?_
  refine .cons (member_none (·.minPool) (fun d v => { d with minPool := some v }) (fun _ _ => rfl)
    (reads_size least) rfl) ?_
  refine .cons (member_none (·.maxPool) (fun d v => { d with maxPool := some v }) (fun _ _ => rfl)
    (reads_size most) rfl) ?_
  -- The launch command stands between the pool's size and the last field, if there is one.
  cases launch with
  | none => exact hauto _ rfl
  | some command =>
    exact .cons (member_none (·.launchCommand) (fun d v => { d with launchCommand := some v })
      (fun _ _ => rfl) (reads_command command) rfl) (hauto _ rfl)

end StudioDraft

/-- A studio's object is read as that studio. -/
theorem Studio.reads_json (s : Studio) : Reads Studio.read s.json s := by
  intro rest _
  obtain ⟨cs, hopen, hmembers⟩ := Json.readMembers_object (StudioDraft.takes_fields s) rest
  have hstudio : StudioDraft.ofObject cs = .ok (s, rest) := by
    simp only [StudioDraft.ofObject, hmembers, bind, Except.bind, StudioDraft.finish_ofStudio]
    rfl
  rw [Studio.json, hopen, Studio.read, Json.readStructure, Json.skipGaps_cons (by decide)]
  exact hstudio

namespace Fleet

variable {f : Fleet}

/-! ## Entries -/

/-- A key behind all others is placed at the end. -/
theorem place_of_last {key : String} {s : Studio} {es : List (String × Studio)}
    (h : ∀ e ∈ es, e.1 < key) : place key s es = es ++ [(key, s)] := by
  induction es with
  | nil => rfl
  | cons e es ih =>
    have hlt : e.1 < key := h e List.mem_cons_self
    rw [place, if_neg (String.lt_asymm hlt), if_neg fun heq => String.lt_irrefl _ (heq ▸ hlt),
      ih fun d hd => h d (List.mem_cons_of_mem e hd)]
    rfl

/-- Entries inserted in the order of their keys stand in that order. -/
theorem entries_foldl_insert {es : List (String × Studio)}
    (h : (f.entries ++ es).Pairwise fun a b => a.1 < b.1) :
    (es.foldl (fun g e => g.insert e.1 e.2) f).entries = f.entries ++ es := by
  induction es generalizing f with
  | nil => rw [List.append_nil, List.foldl_nil]
  | cons e es ih =>
    have hlast : (f.insert e.1 e.2).entries = f.entries ++ [e] :=
      place_of_last fun d hd => (List.pairwise_append.mp h).2.2 d hd e List.mem_cons_self
    have hsame : (f.insert e.1 e.2).entries ++ es = f.entries ++ e :: es := by
      rw [hlast, List.append_assoc, List.singleton_append]
    rw [List.foldl_cons, ih (hsame.symm ▸ h), hsame]

theorem eq_of_entries {f g : Fleet} (h : f.entries = g.entries) : f = g := by
  obtain ⟨es, _⟩ := f
  obtain ⟨fs, _⟩ := g
  obtain rfl : es = fs := h
  rfl

/-! ## Documents -/

theorem member_colon (f : Fleet) (key : String) (cs : List Char) :
    member f key (':' :: cs) = do
      let (s, rest) ← Studio.read cs
      return (f.insert key s, rest) := rfl

theorem takes_entries (f : Fleet) (es : List (String × Studio)) :
    Takes member f (es.map fun e => (e.1, e.2.json))
      (es.foldl (fun g e => g.insert e.1 e.2) f) := by
  induction es generalizing f with
  | nil => exact .nil f
  | cons e es ih =>
    refine .cons (fun rest hrest => ?_) (ih (f.insert e.1 e.2))
    rw [member_colon, e.2.reads_json rest hrest]
    rfl

theorem reads_studios (f : Fleet) :
    Reads readStudios (Json.object (f.entries.map fun e => (e.1, e.2.json))) f := by
  intro rest _
  have hall : f.entries.foldl (fun g e => g.insert e.1 e.2) {} = f :=
    eq_of_entries (entries_foldl_insert f.ascending)
  obtain ⟨cs, hopen, hmembers⟩ := Json.readMembers_object (takes_entries {} f.entries) rest
  rw [hall] at hmembers
  rw [hopen, readStudios, Json.skipGaps_cons (by decide)]
  exact hmembers

theorem takes_document {text : String} (h : Reads readStudios text f) :
    Takes documentMember none [("studios", text)] (some f) := by
  have hmember : ∀ cs, documentMember none "studios" cs =
      (StudioDraft.field none "studios" readStudios cs).bind fun r => .ok (some r.1, r.2) :=
    fun _ => rfl
  refine .cons (fun rest hrest => ?_) (.nil (some f))
  rw [hmember, StudioDraft.field_none h "studios" hrest]
  rfl

/-- A configuration that was written is read, and each studio has its key for a name. -/
theorem ofJson_json (f : Fleet) : ofJson f.json = .ok f.named := by
  obtain ⟨cs, hopen, hmembers⟩ := Json.readMembers_object (takes_document (reads_studios f)) []
  have hread : Json.readStructure "StudiosConfig" ofObject ofArray ('\x7b' :: cs) =
      .ok (f, []) := by
    rw [Json.readStructure, Json.skipGaps_cons (by decide)]
    show ofObject cs = _
    rw [ofObject, hmembers]
    rfl
  rw [List.append_nil] at hopen
  rw [ofJson, json, hopen, Json.readDocument, hread]
  rfl

/-! ## Names -/

/-- Each studio has its key for a name. -/
def IsNamed (f : Fleet) : Prop := ∀ e ∈ f.entries, e.2.name = e.1

theorem isNamed_named (f : Fleet) : f.named.IsNamed := by
  intro e he
  obtain ⟨d, -, rfl⟩ := List.mem_map.mp he
  rfl

theorem named_of_isNamed (h : f.IsNamed) : f.named = f := by
  refine eq_of_entries ((List.map_congr_left fun e he => ?_).trans (List.map_id f.entries))
  obtain ⟨key, s⟩ := e
  obtain rfl : s.name = key := h _ he
  rfl

theorem isNamed_of_ofJson {text : String} (h : ofJson text = .ok f) : f.IsNamed := by
  rw [ofJson] at h
  split at h
  · rename_i g hread
    cases h
    exact g.isNamed_named
  · contradiction

/-- The complaint about a studio that has not its key for a name. -/
def mismatch (name : String) : String := "key does not match name `" ++ name ++ "`"

theorem head?_mismatch (name : String) : (mismatch name).toList.head? = some 'k' := by
  have hfirst : "key does not match name `".toList.head? = some 'k' := by decide
  unfold mismatch
  simp only [String.toList_append, List.append_assoc, List.head?_append]
  simp only [hfirst, Option.some_or]

/-- Nothing that makes a definition useless reads like the complaint about a name. -/
theorem head?_of_defect? {s : Studio} {reason : String} (h : s.defect? = some reason) :
    reason.toList.head? ≠ some 'k' := by
  unfold Studio.defect? at h
  repeat' split at h
  all_goals
    cases h
    try decide

/-- A fault found with a configuration is found with one of its entries. -/
theorem exists_of_forM {α : Type} {check : α → Except Fault Unit} {as : List α} {fault : Fault}
    (h : as.forM check = .error fault) : ∃ a ∈ as, check a = .error fault := by
  induction as with
  | nil => contradiction
  | cons a as ih =>
    replace h : (check a >>= fun _ => as.forM check) = .error fault := h
    cases hfirst : check a with
    | error other =>
      rw [hfirst] at h
      cases h
      exact ⟨a, List.mem_cons_self, hfirst⟩
    | ok _ =>
      rw [hfirst] at h
      obtain ⟨b, hb, hfault⟩ := ih h
      exact ⟨b, List.mem_cons_of_mem a hb, hfault⟩

/-- Where every studio has its key for a name, validation does not complain about a name. -/
theorem validate_ne_mismatch (h : f.IsNamed) (key name : String) :
    f.validate ≠ .error (.invalidConfig key (mismatch name)) := by
  intro hfault
  obtain ⟨⟨k, s⟩, hmem, hentry⟩ := exists_of_forM hfault
  have hname : s.name = k := h _ hmem
  have hstudio : s.validate = .error (.invalidConfig key (mismatch name)) := by
    simpa [hname] using hentry
  rw [Studio.validate] at hstudio
  split at hstudio
  · rename_i reason hdefect
    cases hstudio
    exact head?_of_defect? hdefect (head?_mismatch name)
  · contradiction

/-- Configurations and their documents. Every configuration is written and read back with the keys
for names, and so without a change where keys and names agree. What was read from any document at
all is written and read back without a change, and no validation of it complains about a name. -/
theorem json_round_trip :
    (∀ f : Fleet, ofJson f.json = .ok f.named) ∧
    (∀ f : Fleet, (∀ e ∈ f.entries, e.2.name = e.1) → ofJson f.json = .ok f) ∧
    ∀ (text : String) (f : Fleet), ofJson text = .ok f →
      ofJson f.json = .ok f ∧ (∀ e ∈ f.entries, e.2.name = e.1) ∧
        ∀ key name,
          f.validate ≠
            .error (.invalidConfig key ("key does not match name `" ++ name ++ "`")) := by
  have hback : ∀ f : Fleet, f.IsNamed → ofJson f.json = .ok f := by
    intro f hnamed
    rw [ofJson_json, named_of_isNamed hnamed]
  refine ⟨ofJson_json, hback, fun text f hread => ?_⟩
  have hnamed := isNamed_of_ofJson hread
  exact ⟨hback f hnamed, hnamed, validate_ne_mismatch hnamed⟩

/-- A name with a quote, a host with a backslash and a control character, the greatest port and pool
size and an empty command come back as they were. -/
theorem json_round_trip_quoted :
    let s : Studio := {
      name := "a\x22é", host := "\\\x01", port := 65535, maxPool := 0xffffffffffffffff,
      launchCommand := some "" }
    let f := ({} : Fleet).add s
    (∀ e ∈ f.entries, e.2.name = e.1) ∧ ofJson f.json = .ok f ∧
      f.validate ≠ .error (.invalidConfig s.name (mismatch s.name)) := by
  intro s f
  have hnamed : ∀ e ∈ f.entries, e.2.name = e.1 := by
    intro e he
    obtain rfl : e = (s.name, s) := List.mem_singleton.mp he
    rfl
  have hback := json_round_trip.2.1 f hnamed
  exact ⟨hnamed, hback, (json_round_trip.2.2 f.json f hback).2.2 s.name s.name⟩

end Fleet

end BroadcastLink
