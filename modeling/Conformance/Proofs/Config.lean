import Conformance.Config.Reader
import Conformance.Proofs.Toml

/-!
# What the file of settings says

The entries of a document, of which no two have one name, replace the defaults one by one
(`setAll_eq`). So a file that loads gives the default configuration with the settings that it says
(`load_eq_ok_iff`). `LoadFails` lists why a file does not load (`load_eq_error_iff`).
-/

namespace Conformance

open Toml (Value Entries)

section Entries

variable {α : Type} {es : Entries} {name text : String} {place : Toml.Place} {v : Value}
  {c c' : Config}

/-- What the entry with the name says. -/
def Toml.Entries.said (es : Entries) (name : String) (read : Value → Except PlacedFault α) :
    Option α :=
  (es.find? name).bind fun e => (read e.2).toOption

theorem Toml.Entries.said_cons (h : name ∉ es.map Prod.fst) (wanted : String)
    (read : Value → Except PlacedFault α) : said ((name, place, v) :: es) wanted read
      = (said es wanted read).or (said [(name, place, v)] wanted read) := by
  by_cases hname : name = wanted
  · subst hname
    have hnone : es.said name read = none := by
      rw [said, find?_eq_none_iff.2 h, Option.bind_none]
    rw [hnone, Option.none_or]
    simp [said, find?]
  · have hfind : find? ((name, place, v) :: es) wanted = es.find? wanted := by
      simp [find?, hname]
    have hnone : said [(name, place, v)] wanted read = none := by simp [said, find?, hname]
    rw [hnone, Option.or_none, said, said, hfind]

namespace Config

/-- The configuration with what the entries say in the place of its settings. -/
def withEntries (c : Config) (es : Entries) : Config where
  buildName := (es.said "build_name" (textValue "a string")).getD c.buildName
  endpoint := (es.said "endpoint" (textValue "a string")).getD c.endpoint
  channel := (es.said "transport" (namedValue Channel.values)).getD c.channel
  curlBinary := (es.said "curl_binary" (textValue "path string")).getD c.curlBinary
  timeout := (es.said "timeout_secs" wordValue).or c.timeout
  matchMode := (es.said "match_mode" (namedValue MatchMode.values)).getD c.matchMode
  groupPolicy := (es.said "multi_group" (namedValue GroupPolicy.values)).getD c.groupPolicy
  outputDir := (es.said "output_dir" (textValue "path string")).getD c.outputDir
  csvFile := (es.said "csv_file" (textValue "a string")).getD c.csvFile
  suitesDir := (es.said "suites_dir" (textValue "path string")).or c.suitesDir

theorem withEntries_cons (h : name ∉ es.map Prod.fst) : c.withEntries ((name, place, v) :: es)
    = (c.withEntries [(name, place, v)]).withEntries es := by
  simp only [withEntries, Toml.Entries.said_cons h, Option.getD_or, Option.or_assoc]

/-- An entry replaces the setting that it names, and an entry with another name replaces none. -/
theorem set_eq (h : c.set name v = .ok c') : c' = c.withEntries [(name, place, v)] := by
  unfold set at h
  split at h
  case h_11 =>
    cases h
    simp_all [withEntries, Toml.Entries.said, Toml.Entries.find?]
  all_goals
    obtain ⟨a, ha, rfl⟩ := map_eq_ok_iff.1 h
    simp [withEntries, Toml.Entries.said, Toml.Entries.find?, ha, Except.toOption]

theorem setAll_eq (hes : es.Distinct) (h : setAll text es c = .ok c') : c' = c.withEntries es := by
  induction es generalizing c with
  | nil =>
    cases h
    rfl
  | cons e es ih =>
    obtain ⟨name, place, v⟩ := e
    obtain ⟨hname, hes⟩ := List.nodup_cons.1 hes
    unfold setAll at h
    split at h
    next c₁ hset =>
      rw [withEntries_cons hname, ← set_eq hset]
      exact ih hes h
    next => cases h

end Config

end Entries

section Loading

variable {t : FileTree} {path : String}

/-- The file at a path loads and has these entries. A file that is not there has none. -/
inductive Loads (t : FileTree) (path : String) : Entries → Prop
  | absent (hfile : t.exists? path = false) : Loads t path []
  | present {text : String} {es : Entries} {c : Config} (hfile : t.exists? path = true)
      (hread : t.readText path = .ok text) (hes : Toml.read text = .ok es)
      (hset : Config.setAll text es {} = .ok c) (hcheck : c.check = .ok ()) : Loads t path es

/-- Why the file at a path does not load. -/
inductive LoadFails (t : FileTree) (path : String) : Failure → Prop
  | unreadable {e : FileError} (hfile : t.exists? path = true)
      (hread : t.readText path = .error e) : LoadFails t path (.file e)
  | unparsable {text : String} {fault : ConfigFault} (hfile : t.exists? path = true)
      (hread : t.readText path = .ok text) (hfault : Config.ofText text = .error fault) :
      LoadFails t path (.configText fault)
  | rejected {text : String} {c : Config} {flaw : ConfigFlaw} (hfile : t.exists? path = true)
      (hread : t.readText path = .ok text) (hc : Config.ofText text = .ok c)
      (hcheck : c.check = .error flaw) : LoadFails t path (.config flaw)

namespace Config

variable {c : Config}

theorem ofText_eq_ok_iff {text : String} : ofText text = .ok c
    ↔ ∃ es, Toml.read text = .ok es ∧ setAll text es {} = .ok c := by
  unfold ofText
  rcases Toml.read text with e | es
  · simp
  · simp

theorem load_eq_ok_iff : load t path = .ok c
    ↔ ∃ es, Loads t path es ∧ c = ({} : Config).withEntries es := by
  unfold load
  rcases hfile : t.exists? path with _ | _
  · rw [if_neg Bool.false_ne_true]
    refine ⟨fun h => ⟨[], .absent hfile, ?_⟩, ?_⟩
    · cases h
      rfl
    · rintro ⟨es, _ | ⟨htrue, -, -, -, -⟩, rfl⟩
      · rfl
      · rw [hfile] at htrue
        cases htrue
  · rw [if_pos rfl]
    simp only [bind_eq_ok_iff, mapError_eq_ok_iff, ofText_eq_ok_iff, pure_eq_ok, Except.ok.injEq]
    constructor
    · rintro ⟨text, hread, c, ⟨es, hes, hset⟩, ⟨⟩, hcheck, rfl⟩
      exact ⟨es, .present hfile hread hes hset hcheck, setAll_eq (Toml.distinct_read hes) hset⟩
    · rintro ⟨es, hfalse | ⟨-, hread, hes, hset, hcheck⟩, rfl⟩
      · rw [hfile] at hfalse
        cases hfalse
      · have hc := setAll_eq (Toml.distinct_read hes) hset
        exact ⟨_, hread, _, ⟨es, hes, hset⟩, (), hcheck, hc⟩

theorem load_eq_error_iff {e : Failure} : load t path = .error e ↔ LoadFails t path e := by
  unfold load
  rcases hfile : t.exists? path with _ | _
  · rw [if_neg Bool.false_ne_true]
    refine ⟨nofun, ?_⟩
    rintro (⟨h, -⟩ | ⟨h, -, -⟩ | ⟨h, -, -, -⟩)
    all_goals
      rw [hfile] at h
      cases h
  · rw [if_pos rfl]
    simp only [bind_eq_error_iff, mapError_eq_error_iff, mapError_eq_ok_iff, pure_eq_ok,
      reduceCtorEq, and_false, exists_false, or_false]
    constructor
    · rintro (⟨e, hread, rfl⟩ | ⟨text, hread, ⟨fault, hfault, rfl⟩ | ⟨c, hc, flaw, hcheck, rfl⟩⟩)
      · exact .unreadable hfile hread
      · exact .unparsable hfile hread hfault
      · exact .rejected hfile hread hc hcheck
    · rintro (⟨-, hread⟩ | ⟨-, hread, hfault⟩ | ⟨-, hread, hc, hcheck⟩)
      · exact .inl ⟨_, hread, rfl⟩
      · exact .inr ⟨_, hread, .inl ⟨_, hfault, rfl⟩⟩
      · exact .inr ⟨_, hread, .inr ⟨_, hc, _, hcheck, rfl⟩⟩

end Config

end Loading

end Conformance
