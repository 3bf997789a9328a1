import ClusterLifecycle.Proofs.CloudAccess
import ClusterLifecycle.Proofs.Yaml.Spelling

/-!
The file in a cluster's secret that tells cloud clients where to go and who to be. The settings are
put in as they are.

* `cloudsYaml_eq`: the file is a mapping with the settings put in;
* `TellsClouds`: the file, read back, says the settings and nothing else;
* `bare_settings_iff`: it does for settings that stand for themselves, and for no others.
-/

namespace ClusterLifecycle

open Yaml Value Yaml.Document

namespace Yaml

/-- A short key that stands for itself is written with its colon and nothing else. -/
theorem keyText_plain {n : Nat} {key : List Char} (simple : isSimpleKey key = true)
    (plain : styleOf key = .plain) : keyText n key = key ++ [':'] := by
  rw [keyText, if_pos simple, scalarLines, plain]
  simp

end Yaml

namespace Manifest

/-- What the file is to say. -/
def cloudsFile (i : Identity) (credential : Credential) : List (String × Value) :=
  [("clouds", .mapping [
    ("default", .mapping [
      ("auth", .mapping [
        ("auth_url", .word i.authUrl),
        ("application_credential_id", .word credential.id),
        ("application_credential_secret", .word credential.secret)]),
      ("region_name", .word i.region),
      ("interface", .word i.endpoints),
      ("identity_api_version", .word "3"),
      ("auth_type", .word "v3applicationcredential")])])]

/-- The keys of the file. -/
def keyNames : List String :=
  ["clouds", "default", "auth", "auth_url", "application_credential_id",
    "application_credential_secret", "region_name", "interface", "identity_api_version",
    "auth_type"]

/-- The settings that are put in. -/
def settings (i : Identity) (credential : Credential) : List String :=
  [i.authUrl, credential.id, credential.secret, i.region, i.endpoints]

theorem keyText_known {key : String} (known : key ∈ keyNames) (n : Nat) :
    keyText n key.toList = key.toList ++ [':'] := by
  have plain : ∀ key ∈ keyNames,
      isSimpleKey key.toList = true ∧ styleOf key.toList = .plain := by decide +kernel
  exact keyText_plain (plain key known).1 (plain key known).2

set_option maxRecDepth 4000 in
/-- The file is a mapping with the settings put in. -/
theorem cloudsYaml_eq (i : Identity) (credential : Credential) :
    cloudsYaml i credential = render (.mapping (cloudsFile i credential)) := by
  refine String.toList_inj.1 ?_
  unfold cloudsYaml
  simp (disch := decide) only [render, cloudsFile, fieldLines, afterColon, keyText_known,
    String.toList_ofList, List.isEmpty_cons, List.isEmpty_nil, Bool.false_eq_true, ↓reduceIte]
  simp only [String.toList_append, String.reduceToList, spaces, List.replicate, List.cons_append,
    List.nil_append, List.append_assoc]

theorem fieldsSpliced_cloudsFile {i : Identity} {credential : Credential}
    (unmarked : ∀ s ∈ settings i credential, Unmarked s.toList) :
    FieldsSpliced (cloudsFile i credential) := by
  have simple : ∀ key ∈ keyNames, isSimpleKey key.toList = true := by decide +kernel
  have version : Unmarked "3".toList := by decide
  have kind : Unmarked "v3applicationcredential".toList := by decide +kernel
  simp only [settings, List.mem_cons, List.not_mem_nil, or_false, forall_eq_or_imp,
    forall_eq] at unmarked
  simp only [keyNames, List.mem_cons, List.not_mem_nil, or_false, forall_eq_or_imp,
    forall_eq] at simple
  simp only [cloudsFile, FieldsSpliced, Spliced, unmarked, simple, version, kind, and_self, ne_eq,
    reduceCtorEq, not_false_eq_true]

theorem fieldWords_cloudsFile (i : Identity) (credential : Credential) :
    fieldWords (cloudsFile i credential) =
      settings i credential ++ ["3", "v3applicationcredential"] := rfl

/-- What does not depend on the settings stands for itself. -/
theorem bare_fixed : ∀ s ∈ ["3", "v3applicationcredential"], Bare s.toList := by
  decide +kernel

/-- A file that a secret carries. -/
def file? (m : Manifest) (name : String) : Option String :=
  ((m.toJson.get? "stringData").bind (·.get? name)).bind (·.string?)

end Manifest

namespace Deployment

/-- The file in the secret can be read, and it says the settings and nothing else. -/
def TellsClouds (d : Deployment) (c : Cluster) (credential : Credential) : Prop :=
  ∃ m text file, d.manifest .cloudConfigSecret c none (some credential) = .ok m ∧
    m.file? "clouds.yaml" = some text ∧ document? text.toList = some file ∧
      file.Spells (.mapping (Manifest.cloudsFile d.identity credential)) file.root

theorem file?_secretManifest (d : Deployment) (c : Cluster) (credential : Credential) :
    (d.secretManifest c credential).file? "clouds.yaml" =
      some (Manifest.cloudsYaml d.identity credential) := rfl

theorem tellsClouds_iff {d : Deployment} {c : Cluster} {credential : Credential}
    (unmarked : ∀ s ∈ Manifest.settings d.identity credential, Unmarked s.toList) :
    d.TellsClouds c credential ↔
      ∀ s ∈ Manifest.settings d.identity credential, Bare s.toList := by
  have spliced := Manifest.fieldsSpliced_cloudsFile unmarked
  have said := spells_iff (by simp [Manifest.cloudsFile]) spliced
  rw [← Manifest.cloudsYaml_eq, Manifest.fieldWords_cloudsFile, List.forall_mem_append] at said
  refine Iff.trans ⟨?_, ?_⟩ (said.trans (and_iff_left Manifest.bare_fixed))
  · rintro ⟨m, text, file, made, carried, read, spells⟩
    rw [manifest_secret] at made
    cases made
    rw [file?_secretManifest] at carried
    cases carried
    exact ⟨file, read, spells⟩
  · rintro ⟨file, read, spells⟩
    exact ⟨_, _, file, d.manifest_secret c credential, d.file?_secretManifest c credential, read,
      spells⟩

/-- The file says what was put in for settings that stand for themselves without quotes. Of those on
one line that open no other node than a plain text, it does for no others. -/
theorem bare_settings_iff (d : Deployment) (c : Cluster) (credential : Credential) :
    (∀ s ∈ Manifest.settings d.identity credential, Bare s.toList) ↔
      (∀ s ∈ Manifest.settings d.identity credential, Unmarked s.toList) ∧
        d.TellsClouds c credential := by
  constructor
  · intro bare
    have unmarked := fun s hs => (bare s hs).unmarked
    exact ⟨unmarked, (tellsClouds_iff unmarked).2 bare⟩
  · rintro ⟨unmarked, tells⟩
    exact (tellsClouds_iff unmarked).1 tells

end Deployment

end ClusterLifecycle
