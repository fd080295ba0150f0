import ImageCatalog.Proofs.Dictionary
import ImageCatalog.Proofs.Json.RoundTrip
import ImageCatalog.Proofs.Time.Zulu
import ImageCatalog.Record.Json

/-!
# Records are read back

A record is read back from its stored form as the very record it was made of: every annotation and
consumer with all its characters, every instant to the nanosecond, every version.

## Main results

* `Record.ofJson?_toJson` — a record is read back from its value
* `Record.parse?_pretty` — a record is read back from its file
* `Record.read_back_from_texts` — a record is read back from both of its texts, and what is read
  from any text at all is no longer changed by writing and reading it once more
-/

namespace ImageCatalog

/-! ### Values of the common shapes -/

namespace Json

@[simp] theorem orElse_some {α : Type} (decode : Json → Option α) (default : α) (v : Json) :
    orElse decode default (some v) = decode v := rfl

@[simp] theorem asString?_text (s : String) : (text s).asString? = some s := rfl

theorem mapM_map_of_eq {α β γ : Type} {f : β → Option γ} {g : α → β} {h : α → γ}
    (hfg : ∀ a, f (g a) = some (h a)) (l : List α) : (l.map g).mapM f = some (l.map h) := by
  induction l with
  | nil => rfl
  | cons a l ih => simp [List.mapM_cons, hfg, ih]

theorem strings?_text (l : List String) : strings? (.array (l.map text)) = some l := by
  have hall := mapM_map_of_eq asString?_text l
  rw [List.map_id'] at hall
  exact hall

theorem keyed?_member (l : List (String × Json)) :
    keyed? (l.map fun e => member e.1 e.2) = some l := by
  have hall := mapM_map_of_eq (f := fun m : Option String × Json => m.1.map (·, m.2))
    (g := fun e : String × Json => member e.1 e.2) (h := id) (fun _ => rfl) l
  rw [List.map_id] at hall
  exact hall

theorem dictionary?_ofDictionary (d : Dictionary String) :
    dictionary? (.object (ofDictionary d)) = some d := by
  have hkeyed : keyed? (ofDictionary d) = some (d.entries.map fun e => (e.1, text e.2)) := by
    have h := keyed?_member (d.entries.map fun e => (e.1, text e.2))
    rwa [List.map_map] at h
  have hentries : (d.entries.map fun e => (e.1, text e.2)).mapM
      (fun e => e.2.asString?.map (e.1, ·)) = some d.entries := by
    have h := mapM_map_of_eq (f := fun e : String × Json => e.2.asString?.map (e.1, ·))
      (g := fun e : String × String => (e.1, text e.2)) (h := id) (fun _ => rfl) d.entries
    rwa [List.map_id] at h
  simp [dictionary?, hkeyed, hentries, Dictionary.ofList_entries]

theorem word?_nat (w : UInt64) : word? (nat w.toNat) = some w := by
  have hdigits : (Text.digits w.toNat).all Text.isDigit = true :=
    List.all_eq_true.2 fun _ => Text.isDigit_of_mem_digits
  have hlt : w.toNat < UInt64.size := w.toNat_lt_size
  simp only [word?, nat, hdigits, Text.value_digits, Bool.true_and, decide_eq_true_eq]
  rw [if_pos hlt, UInt64.ofNat_toNat]

end Json

namespace Phase

theorem ofName?_name (p : Phase) : ofName? p.name = some p := by
  cases p <;> decide

end Phase

/-! ### Records -/

namespace Record

theorem instantOfJson?_zulu (t : Instant) :
    instantOfJson? (Json.text t.zulu) = some t := by
  rw [instantOfJson?, Json.asString?_text, Option.bind_some, Instant.parse?_zulu]

theorem ofJson?_spec (s : Spec) : Spec.ofJson? s.toJson = some s := rfl

/-- The fields of a status: the phase is left out if there is none. -/
theorem fields?_statusToJson (r : Record) :
    r.statusToJson.fields? ["releases", "state"] =
      some [some (.array (r.consumers.map Json.text)), r.phase.map fun p => Json.text p.name] := by
  unfold statusToJson
  cases r.phase <;> rfl

/-- The fields of the metadata: what is not set is left out. -/
theorem fields?_metadataToJson (r : Record) :
    r.metadataToJson.fields? ["name", "resourceVersion", "creationTimestamp", "deletionTimestamp",
      "annotations"] =
      some [some (Json.text r.name), some (Json.nat r.version.toNat),
        some (Json.text r.created.zulu), r.deletion.map fun t => Json.text t.zulu,
        if r.annotations.isEmpty then none
        else some (.object (Json.ofDictionary r.annotations))] := by
  unfold metadataToJson
  cases r.deletion <;> cases r.annotations.isEmpty <;> rfl

theorem statusOfJson?_statusToJson (r : Record) :
    statusOfJson? r.statusToJson = some (r.consumers, r.phase) := by
  have hphase : Json.orElse (Json.nullable Phase.ofJson?) none
      (r.phase.map fun p => Json.text p.name) = some r.phase := by
    cases r.phase with
    | none => rfl
    | some p => simp [Json.text, Json.nullable, Phase.ofJson?, Phase.ofName?_name]
  simp [statusOfJson?, fields?_statusToJson, Json.strings?_text, hphase]

/-- **A record is read back from its value.** -/
theorem ofJson?_toJson (r : Record) : ofJson? r.toJson = some r := by
  have hfields : r.toJson.fields? ["metadata", "spec", "status"] =
      some [some r.metadataToJson, some r.spec.toJson, some r.statusToJson] := rfl
  have hdeletion : Json.orElse (Json.nullable instantOfJson?) none
      (r.deletion.map fun t => Json.text t.zulu) = some r.deletion := by
    cases r.deletion with
    | none => rfl
    | some t =>
      have hinstant := instantOfJson?_zulu t
      rw [Json.text] at hinstant
      simp [Json.text, Json.nullable, hinstant]
  have hannotations : Json.orElse Json.dictionary? .empty
      (if r.annotations.isEmpty then none else some (.object (Json.ofDictionary r.annotations))) =
        some r.annotations := by
    split
    · rename_i hempty
      have hnone : r.annotations = .empty := by
        cases hd : r.annotations with
        | mk entries ascending =>
          rw [hd] at hempty
          have hentries : entries = [] := by simpa [Dictionary.isEmpty] using hempty
          subst hentries
          rfl
      rw [hnone]
      rfl
    · exact Json.dictionary?_ofDictionary r.annotations
  simp [ofJson?, hfields, fields?_metadataToJson, statusOfJson?_statusToJson,
    Json.word?_nat, instantOfJson?_zulu, hdeletion, hannotations, ofJson?_spec]

theorem printable_toJson (r : Record) : Json.Printable r.toJson := by
  have hspec : Json.Printable r.spec.toJson := by
    refine .object ?_ ?_ <;> simp [Json.member, Json.Printable.text]
  have hstatus : Json.Printable r.statusToJson := by
    have hconsumers : Json.Printable (.array (r.consumers.map Json.text)) := by
      refine .array fun v hv => ?_
      obtain ⟨c, -, rfl⟩ := List.mem_map.1 hv
      exact .text c
    unfold statusToJson
    cases r.phase <;> refine .object ?_ ?_ <;>
      simp [Json.member, Json.member?, Json.Printable.text, hconsumers]
  have hmetadata : Json.Printable r.metadataToJson := by
    have hannotations : Json.Printable (.object (Json.ofDictionary r.annotations)) := by
      refine .object ?_ ?_ <;> intro m hm <;> obtain ⟨e, -, rfl⟩ := List.mem_map.1 hm
      · rfl
      · exact .text e.2
    unfold metadataToJson
    cases r.deletion <;> cases r.annotations.isEmpty <;> refine .object ?_ ?_ <;>
      simp [Json.member, Json.member?, Json.Printable.text, Json.Printable.nat, hannotations]
  refine .object ?_ ?_ <;> simp [Json.member, hspec, hstatus, hmetadata]

theorem parse?_compact (r : Record) : parse? r.compact = some r := by
  rw [parse?, compact, Json.parse?_compact r.printable_toJson, Option.bind_some, ofJson?_toJson]

/-- **A record is read back from its file.** -/
theorem parse?_pretty (r : Record) : parse? r.pretty = some r := by
  rw [parse?, pretty, Json.parse?_pretty r.printable_toJson, Option.bind_some, ofJson?_toJson]

/-- **A record is read back from both of its texts** as the very record that was written. Other
texts of a record there are many, with members in any order, unknown ones among them, and stamps in
other spellings. Whatever record is read from a text, writing it and reading it once more leaves
it as it is. -/
theorem read_back_from_texts :
    (∀ r : Record, parse? r.compact = some r ∧ parse? r.pretty = some r) ∧
      ∀ text : String, ((parse? text).bind fun r => parse? r.compact) = parse? text ∧
        ((parse? text).bind fun r => parse? r.pretty) = parse? text := by
  have hcompact : (fun r : Record => parse? r.compact) = some := funext parse?_compact
  have hpretty : (fun r : Record => parse? r.pretty) = some := funext parse?_pretty
  refine ⟨fun r => ⟨r.parse?_compact, r.parse?_pretty⟩, fun text => ⟨?_, ?_⟩⟩
  · rw [hcompact, Option.bind_fun_some]
  · rw [hpretty, Option.bind_fun_some]

end Record

end ImageCatalog
