/-
Admission of EPAs (`mutate_epa`, `validate_epa` and `generate_patch` of
`webhook/admission/handlers.rs`).

The mutating webhook reads the submitted object, fills in the defaults, writes the object again and
answers with the patch from the one to the other.  The server applies the patch and asks the
validating webhook, which reads the patched object.  Both webhooks are called for every creation and
update, and a failing call is a denial (`templates/webhooks.yaml`); the status is written without
them.  The code that reads and writes documents, patches and their texts is that of the libraries,
which are parameters.

The main result of this file is `stored_complete`: whatever is submitted, every EPA that is
stored is one that the program writes, with its defaults filled in and accepted by the checks, and
submitting it again changes nothing.
-/
import ExternalPodAutoscaler.Api.Resource
import ExternalPodAutoscaler.Lib.Transition
import ExternalPodAutoscaler.Webhook.Defaults

namespace ExternalPodAutoscaler.Webhook

open ExternalPodAutoscaler.Api ExternalPodAutoscaler.Lib

/-! ### Reviews -/

/-- The fields of an `AdmissionRequest` that the handlers use. -/
structure AdmissionRequest where
  uid : String
  object : Option Json

structure StatusDetails where
  code : ℕ
  message : String

/-- A response, with the text of its patch. -/
structure AdmissionResponse (Text : Type) where
  uid : String
  allowed : Bool
  status : Option StatusDetails
  patch : Option Text
  patchType : Option String

structure AdmissionReview (Text : Type) where
  apiVersion : String
  kind : String
  request : Option AdmissionRequest
  response : Option (AdmissionResponse Text)

inductive AdmissionError where
  | badRequest (message : String)
  | internalError (message : String)

section Responses

variable {Text : Type}

/-- The review with a response. -/
def respond (response : AdmissionResponse Text) : AdmissionReview Text where
  apiVersion := "admission.k8s.io/v1"
  kind := "AdmissionReview"
  request := none
  response := some response

/-- The response that allows a request as it is. -/
def allow (uid : String) : AdmissionResponse Text := ⟨uid, true, none, none, none⟩

/-- The response that denies a request. -/
def deny (uid message : String) : AdmissionResponse Text :=
  ⟨uid, false, some ⟨400, message⟩, none, none⟩

end Responses

/-- The error of a review without a request. -/
def missingRequest : AdmissionError := .badRequest "Missing request in AdmissionReview"

/-! ### The handlers -/

/-- Patches of documents (`json_patch`) and their texts (`serde_json` and `base64`). -/
structure PatchLibrary (Op Text : Type) where
  diff : Json → Json → List Op
  /-- The document after the operations, `none` if one of them cannot be applied. -/
  apply : List Op → Json → Option Json
  toText : List Op → Option Text
  ofText : Text → Option (List Op)

/-- What the handlers rely on: the difference of two documents leads from the one to the other, and
patches survive as texts. -/
structure PatchLibrary.Lawful {Op Text : Type} (lib : PatchLibrary Op Text) : Prop where
  apply_nil : ∀ v, lib.apply [] v = some v
  apply_diff : ∀ v v', lib.apply (lib.diff v v') v = some v'
  ofText_toText : ∀ patch, (lib.toText patch).bind lib.ofText = some patch

/-- An EPA with a spec.  The checks and the defaults do not read the metadata. -/
def ofSpec (spec : EpaSpec) : Epa := ⟨⟨none, none, none, none⟩, spec⟩

section Handlers

variable {M Op Text : Type} (serde : Serde) (lib : PatchLibrary Op Text)
  (metadata : Codec M)
  (parseError : Json → String)

/-- `apply_defaults`. -/
def withDefaults (epa : EpaResource M) : EpaResource M :=
  { epa with spec := (Webhook.applyDefaults (ofSpec epa.spec)).spec }

/-- The error of an object that is not an EPA. -/
def parseFailure (object : Json) : AdmissionError :=
  .badRequest s!"Failed to parse EPA object: {parseError object}"

/-- `validate_epa`.  A panic of a check is `none`. -/
def validateEpa (review : AdmissionReview Text) :
    Option (Except AdmissionError (AdmissionReview Text)) :=
  match review.request with
  | none => some (.error missingRequest)
  | some request =>
    match request.object with
    | none => some (.ok (respond (allow request.uid)))
    | some object =>
      match (epaResource serde metadata).decode object with
      | none => some (.error (parseFailure parseError object))
      | some epa =>
        (validateEpaSpec (ofSpec epa.spec)).run.map fun
          | .ok () => .ok (respond (allow request.uid))
          | .error message => .ok (respond (deny request.uid message))

/-- `generate_patch`. -/
def generatePatch (original modified : Json) : Option Text :=
  if (lib.diff original modified).isEmpty then none
  else lib.toText (lib.diff original modified)

/-- `mutate_epa`.  Writing an EPA does not fail. -/
def mutateEpa (review : AdmissionReview Text) :
    Except AdmissionError (AdmissionReview Text) :=
  match review.request with
  | none => .error missingRequest
  | some request =>
    match request.object with
    | none => .ok (respond (allow request.uid))
    | some object =>
      match (epaResource serde metadata).decode object with
      | none => .error (parseFailure parseError object)
      | some epa =>
        let modified := (epaResource serde metadata).encode (withDefaults epa)
        let patch := generatePatch lib object modified
        .ok (respond ⟨request.uid, true, none, patch, patch.map fun _ => "JSONPatch"⟩)

/-! ### The server -/

/-- The review that asks for a submitted object. -/
def asked {Text : Type} (uid : String) (object : Json) : AdmissionReview Text :=
  ⟨"admission.k8s.io/v1", "AdmissionReview", some ⟨uid, some object⟩, none⟩

/-- The object after the patch of a response. -/
def patched (patch : Option Text) (object : Json) : Option Json :=
  match patch with
  | none => some object
  | some text => (lib.ofText text).bind fun patch => lib.apply patch object

/-- The object after the mutating webhook has been called; `none` is a denial. -/
def mutated (uid : String) (object : Json) : Option Json := do
  let review ← (mutateEpa serde lib metadata parseError (asked uid object)).toOption
  let response ← review.response
  if response.allowed then patched lib response.patch object else none

/-- Whether the validating webhook allows an object. -/
def validated (uid : String) (object : Json) : Bool :=
  -- this webhook makes no patches
  match validateEpa serde metadata parseError (asked uid object : AdmissionReview Empty) with
  | some (.ok review) => (review.response.map AdmissionResponse.allowed).getD false
  | _ => false

/-- The object that is stored for a submitted one; `none` is a denial. -/
def admitted (uid : String) (object : Json) : Option Json :=
  (mutated serde lib metadata parseError uid object).filter
    (validated serde metadata parseError uid)

/-- The object with a field. -/
def putField (key : String) (v : Json) : Json → Json
  | .obj fields => .obj (insertSorted key v fields)
  | v' => v'

/-- What happens to the stored EPAs. -/
inductive ApiEvent (M : Type) where
  /-- An object is created or updated. -/
  | submit (key uid : String) (object : Json)
  /-- The status is patched, by the reconciler or by the scheduler. -/
  | setStatus (key : String) (status : EpaStatus)
  /-- The server changes the metadata, as it does with every write. -/
  | setMetadata (key : String) (metadata : M)
  | delete (key : String)

/-- The documents by their names. -/
abbrev Documents := String → Option Json

/-- The next state of the server.  A denied object leaves it as it is. -/
def apiStep (docs : Documents) : ApiEvent M → Option Documents
  | .submit key uid object =>
    match admitted serde lib metadata parseError uid object with
    | some stored => some (Function.update docs key (some stored))
    | none => some docs
  | .setStatus key status =>
    some (Function.update docs key
      ((docs key).map (putField "status" ((epaStatus serde).encode status))))
  | .setMetadata key m =>
    some (Function.update docs key ((docs key).map (putField "metadata" (metadata.encode m))))
  | .delete key => some (Function.update docs key none)

/-- The server, with nothing stored when the webhooks are installed. -/
def apiSystem : System Documents (ApiEvent M) where
  init docs := docs = fun _ => none
  step := apiStep serde lib metadata parseError

/-- The server and the client write metadata and statuses of their types. -/
def WellTyped : Documents → ApiEvent M → Prop
  | _, .setStatus _ status => StatusInRange status
  | _, .setMetadata _ m => metadata.Valid m
  | _, _ => True

end Handlers

/-! ### What the webhooks do -/

section Calls

variable {M Op Text : Type} {serde : Serde} {lib : PatchLibrary Op Text} {metadata : Codec M}
  {parseError : Json → String} {uid : String} {object stored : Json}

lemma specInRange_applyDefaults {spec : EpaSpec} (h : SpecInRange spec) :
    SpecInRange (applyDefaults (ofSpec spec)).spec where
  minReplicas := fillIn_passes IsI32 ⟨by decide, by decide⟩ fun _ => h.minReplicas
  maxReplicas := h.maxReplicas
  port := fillIn_passes IsI32 ⟨by decide, by decide⟩ fun _ => h.port
  matchLabels := h.matchLabels
  scaleUp := h.scaleUp
  scaleDown := h.scaleDown

lemma valid_withDefaults {epa : EpaResource M} (h : (epaResource serde metadata).Valid epa) :
    (epaResource serde metadata).Valid (withDefaults epa) := by
  obtain ⟨hmetadata, hspec, hstatus⟩ := epaResource_valid_iff.1 h
  exact epaResource_valid_iff.2 ⟨hmetadata, specInRange_applyDefaults hspec, hstatus⟩

lemma withDefaults_withDefaults (epa : EpaResource M) :
    withDefaults (withDefaults epa) = withDefaults epa := by
  have h := congrArg Epa.spec (applyDefaults_applyDefaults (ofSpec epa.spec))
  simp only [withDefaults]
  exact congrArg (fun spec => ({ epa with spec := spec } : EpaResource M)) h

/-- The patch leads from the submitted object to the one with the defaults. -/
lemma patched_generatePatch (hlib : lib.Lawful) (object modified : Json) :
    patched lib (generatePatch lib object modified) object = some modified := by
  have happly := hlib.apply_diff object modified
  unfold generatePatch
  split
  · rename_i hempty
    rw [List.isEmpty_iff.1 hempty, hlib.apply_nil] at happly
    exact happly
  · obtain ⟨text, htext, hpatch⟩ :=
      Option.bind_eq_some_iff.1 (hlib.ofText_toText (lib.diff object modified))
    rw [htext, patched, hpatch]
    exact happly

lemma mutated_eq (hlib : lib.Lawful) : mutated serde lib metadata parseError uid object =
    ((epaResource serde metadata).decode object).map fun epa =>
      (epaResource serde metadata).encode (withDefaults epa) := by
  unfold mutated mutateEpa asked
  rcases hdecode : (epaResource serde metadata).decode object with _ | epa
  · simp [hdecode, Except.toOption]
  · simp only [hdecode, Except.toOption, Option.bind_eq_bind, Option.bind_some, respond,
      if_true, Option.map_some]
    exact patched_generatePatch hlib object _

lemma validated_eq : validated serde metadata parseError uid object =
    (((epaResource serde metadata).decode object).map fun epa =>
      (validateEpaSpec (ofSpec epa.spec)).accepts).getD false := by
  unfold validated validateEpa asked
  rcases hdecode : (epaResource serde metadata).decode object with _ | epa
  · simp [hdecode]
  · simp only [hdecode, Option.map_some, Option.getD_some]
    rcases hcheck : (validateEpaSpec (ofSpec epa.spec)).run with _ | _ | _ <;>
      simp [Check.accepts, hcheck, respond, allow, deny]

/-- An object is stored with its defaults, if it is an EPA that passes the checks with them. -/
lemma admitted_eq_some_iff (hlib : lib.Lawful) :
    admitted serde lib metadata parseError uid object = some stored ↔
      ∃ epa, (epaResource serde metadata).decode object = some epa ∧
        (validateEpaSpec (ofSpec (withDefaults epa).spec)).accepts = true ∧
        (epaResource serde metadata).encode (withDefaults epa) = stored := by
  rw [admitted, Option.filter_eq_some_iff, mutated_eq hlib, Option.map_eq_some_iff, validated_eq]
  constructor
  · rintro ⟨⟨epa, hdecode, rfl⟩, haccepts⟩
    have hvalid := valid_withDefaults ((epaResource serde metadata).valid_of_decode _ _ hdecode)
    rw [(epaResource serde metadata).decode_encode _ hvalid] at haccepts
    exact ⟨epa, hdecode, haccepts, rfl⟩
  · rintro ⟨epa, hdecode, haccepts, rfl⟩
    have hvalid := valid_withDefaults ((epaResource serde metadata).valid_of_decode _ _ hdecode)
    rw [(epaResource serde metadata).decode_encode _ hvalid]
    exact ⟨⟨epa, hdecode, rfl⟩, haccepts⟩

end Calls

/-! ### What is stored -/

section Stored

variable {M Op Text : Type} {serde : Serde} {lib : PatchLibrary Op Text} {metadata : Codec M}
  {parseError : Json → String}

/-- The document is one that the program writes, of an EPA with its defaults that passes the
checks. -/
structure Complete (serde : Serde) (metadata : Codec M) (epa : EpaResource M) (d : Json) :
    Prop where
  valid : (epaResource serde metadata).Valid epa
  written : (epaResource serde metadata).encode epa = d
  accepted : (validateEpaSpec (ofSpec epa.spec)).accepts = true
  defaulted : withDefaults epa = epa

lemma complete_of_admitted (hlib : lib.Lawful) {uid : String} {object stored : Json}
    (h : admitted serde lib metadata parseError uid object = some stored) :
    ∃ epa, Complete serde metadata epa stored := by
  obtain ⟨epa, hdecode, haccepts, hstored⟩ := (admitted_eq_some_iff hlib).1 h
  exact ⟨withDefaults epa,
    valid_withDefaults ((epaResource serde metadata).valid_of_decode _ _ hdecode), hstored,
    haccepts, withDefaults_withDefaults epa⟩

lemma keys_write (serde : Serde) (metadata : Codec M) (epa : EpaResource M) :
    ((epaResourceFields serde metadata).write epa).map Prod.fst =
      ["apiVersion", "kind", "metadata", "spec", "status"] :=
  (epaResourceFields serde metadata).keys_write epa

lemma encode_withStatus (epa : EpaResource M) (status : EpaStatus) :
    (epaResource serde metadata).encode { epa with status := some status } =
      putField "status" ((epaStatus serde).encode status)
        ((epaResource serde metadata).encode epa) := by
  have hmem : "status" ∈ ((epaResourceFields serde metadata).write epa).map Prod.fst := by
    simp [keys_write]
  have hinsert := insertSorted_object
    ((keys_write serde metadata epa).symm ▸ epaResourceFields_keys_nodup serde metadata) hmem
  rw [epaResource, Serde.encode_struct, Serde.encode_struct]
  exact congrArg Json.obj (hinsert _).symm

lemma encode_withMetadata (epa : EpaResource M) (m : M) :
    (epaResource serde metadata).encode { epa with metadata := m } =
      putField "metadata" (metadata.encode m) ((epaResource serde metadata).encode epa) := by
  have hmem : "metadata" ∈ ((epaResourceFields serde metadata).write epa).map Prod.fst := by
    simp [keys_write]
  have hinsert := insertSorted_object
    ((keys_write serde metadata epa).symm ▸ epaResourceFields_keys_nodup serde metadata) hmem
  rw [epaResource, Serde.encode_struct, Serde.encode_struct]
  exact congrArg Json.obj (hinsert _).symm

lemma Complete.setStatus {epa : EpaResource M} {d : Json} (h : Complete serde metadata epa d)
    {status : EpaStatus} (hstatus : StatusInRange status) :
    Complete serde metadata { epa with status := some status }
      (putField "status" ((epaStatus serde).encode status) d) where
  valid := by
    obtain ⟨hmetadata, hspec, -⟩ := epaResource_valid_iff.1 h.valid
    refine epaResource_valid_iff.2 ⟨hmetadata, hspec, ?_⟩
    rintro status' ⟨⟩
    exact hstatus
  written := by rw [encode_withStatus, h.written]
  accepted := h.accepted
  defaulted := by
    have hspec := congrArg EpaResource.spec h.defaulted
    simp only [withDefaults] at hspec ⊢
    rw [hspec]

lemma Complete.setMetadata {epa : EpaResource M} {d : Json} (h : Complete serde metadata epa d)
    {m : M} (hm : metadata.Valid m) : Complete serde metadata { epa with metadata := m }
      (putField "metadata" (metadata.encode m) d) where
  valid := by
    obtain ⟨-, hspec, hstatus⟩ := epaResource_valid_iff.1 h.valid
    exact epaResource_valid_iff.2 ⟨hm, hspec, hstatus⟩
  written := by rw [encode_withMetadata, h.written]
  accepted := h.accepted
  defaulted := by
    have hspec := congrArg EpaResource.spec h.defaulted
    simp only [withDefaults] at hspec ⊢
    rw [hspec]

/-- Every stored document is complete. -/
def AllComplete (serde : Serde) (metadata : Codec M) (docs : Documents) : Prop :=
  ∀ key d, docs key = some d → ∃ epa, Complete serde metadata epa d

lemma AllComplete.update {docs : Documents} (h : AllComplete serde metadata docs) {key : String}
    {new : Option Json} (hnew : ∀ d, new = some d → ∃ epa, Complete serde metadata epa d) :
    AllComplete serde metadata (Function.update docs key new) := by
  intro key' d hd
  by_cases hkey : key' = key
  · subst hkey
    rw [Function.update_self] at hd
    exact hnew d hd
  · rw [Function.update_of_ne hkey] at hd
    exact h key' d hd

/-- Every step keeps the stored documents complete. -/
lemma allComplete_step (hlib : lib.Lawful) {docs docs' : Documents} {event : ApiEvent M}
    (hok : WellTyped metadata docs event)
    (hstep : apiStep serde lib metadata parseError docs event = some docs')
    (h : AllComplete serde metadata docs) : AllComplete serde metadata docs' := by
  cases event with
  | submit key uid object =>
      simp only [apiStep] at hstep
      split at hstep
      · rename_i stored hadmitted
        obtain rfl := Option.some.inj hstep
        refine h.update ?_
        rintro d ⟨⟩
        exact complete_of_admitted hlib hadmitted
      · exact Option.some.inj hstep ▸ h
  | setStatus key status =>
      obtain rfl := Option.some.inj hstep
      refine h.update fun d hd => ?_
      obtain ⟨d', hd', rfl⟩ := Option.map_eq_some_iff.1 hd
      obtain ⟨epa, hcomplete⟩ := h key d' hd'
      exact ⟨_, hcomplete.setStatus hok⟩
  | setMetadata key m =>
      obtain rfl := Option.some.inj hstep
      refine h.update fun d hd => ?_
      obtain ⟨d', hd', rfl⟩ := Option.map_eq_some_iff.1 hd
      obtain ⟨epa, hcomplete⟩ := h key d' hd'
      exact ⟨_, hcomplete.setMetadata hok⟩
  | delete key =>
      obtain rfl := Option.some.inj hstep
      exact h.update fun d hd => nomatch hd

lemma allComplete_of_reachable (hlib : lib.Lawful) {docs : Documents}
    (hreach : (apiSystem serde lib metadata parseError).Reachable (WellTyped metadata) docs) :
    AllComplete serde metadata docs := by
  refine hreach.invariant (fun docs hinit => ?_) fun docs event docs' h hok hstep =>
    allComplete_step hlib hok hstep h
  intro key d hd
  rw [show docs = fun _ => none from hinit] at hd
  cases hd

/-- A complete document is admitted as it is. -/
lemma Complete.admitted_self (hlib : lib.Lawful) {epa : EpaResource M} {d : Json}
    (h : Complete serde metadata epa d) (uid : String) :
    admitted serde lib metadata parseError uid d = some d := by
  refine (admitted_eq_some_iff hlib).2 ⟨epa, ?_, ?_, ?_⟩
  · rw [← h.written]
    exact (epaResource serde metadata).decode_encode epa h.valid
  · rw [h.defaulted]
    exact h.accepted
  · rw [h.defaulted]
    exact h.written

/-- **What is stored is complete.** In every run of submissions of any objects, writes of
statuses and metadata, and deletions, every stored EPA is read as one whose defaults are filled in
and which passes the checks, it is what the program writes for this EPA, and submitting it again
changes nothing. -/
theorem stored_complete (hlib : lib.Lawful) {docs : Documents}
    (hreach : (apiSystem serde lib metadata parseError).Reachable (WellTyped metadata) docs)
    {key : String} {d : Json} (hd : docs key = some d) :
    ∃ epa : EpaResource M, (epaResource serde metadata).decode d = some epa ∧
      (epaResource serde metadata).encode epa = d ∧
      (validateEpaSpec (ofSpec epa.spec)).accepts = true ∧ withDefaults epa = epa ∧
      ∀ uid, apiStep serde lib metadata parseError docs (.submit key uid d) = some docs := by
  obtain ⟨epa, h⟩ := allComplete_of_reachable hlib hreach key d hd
  refine ⟨epa, ?_, h.written, h.accepted, h.defaulted, fun uid => ?_⟩
  · rw [← h.written]
    exact (epaResource serde metadata).decode_encode epa h.valid
  · simp only [apiStep]
    rw [h.admitted_self hlib uid]
    show some (Function.update docs key (some d)) = some docs
    rw [← hd, Function.update_eq_self]

end Stored

/-! ### An incomplete object -/

section Example

/-- Patches that replace the document, for the documents that differ. -/
noncomputable def replaceWhole : PatchLibrary Json (List Json) where
  diff v v' := open Classical in if v = v' then [] else [v']
  apply patch v := some (patch.getLastD v)
  toText := some
  ofText := some

lemma replaceWhole_lawful : replaceWhole.Lawful where
  apply_nil _ := rfl
  apply_diff v v' := by
    by_cases h : v = v'
    · simp [replaceWhole, h]
    · simp [replaceWhole, h]
  ofText_toText _ := rfl

/-- Metadata with a name. -/
def namedMetadata : Codec String :=
  Serde.plain.struct (.one "name" (.required .string)) (of_decide_eq_true rfl)

/-- A submitted object.  Its target is an array of the fields. -/
def submitted : Json :=
  .obj
    [("metadata", .obj [("name", .str "web")]),
      ("spec", .obj
        [("minReplicas", .int 0), ("maxReplicas", .int 10),
          ("scrape", .obj [("interval", .str ""), ("timeout", .str "10s")]),
          ("scaleTargetRef", .arr [.str "apps/v1", .str "Deployment", .str "web"]),
          ("metrics", .arr [.obj
            [("metricName", .str "queue_depth"), ("targetValue", .str "30")]])])]

/-- The EPA that is read from it. -/
def submittedEpa : EpaResource String where
  metadata := "web"
  spec :=
    { minReplicas := 0
      maxReplicas := 10
      scrape := ⟨8080, "/metrics", "", "10s", "http", none, "60s", .avg⟩
      scrapeTargetRef := none
      scaleTargetRef := ⟨"apps/v1", "Deployment", "web"⟩
      metrics := [⟨"queue_depth", .averageValue, "30", none, none, none⟩]
      behavior := none }
  status := none

/-- The EPA that is stored. -/
def storedEpa : EpaResource String :=
  { submittedEpa with
    spec := { submittedEpa.spec with
      minReplicas := 1
      scrape := { submittedEpa.spec.scrape with interval := "15s" }
      scrapeTargetRef := some ⟨"apps/v1", "Deployment", "web"⟩ } }

lemma decode_submitted :
    (epaResource .plain namedMetadata).decode submitted = some submittedEpa := by
  decide +kernel

lemma withDefaults_submittedEpa : withDefaults submittedEpa = storedEpa := by decide +kernel

/-- The EPA is stored with its defaults, and stays as it is. -/
theorem stored_complete_created :
    let stored := (epaResource .plain namedMetadata).encode storedEpa
    let docs : Documents := Function.update (fun _ => none) "default/web" (some stored)
    apiStep .plain replaceWhole namedMetadata (fun _ => "") (fun _ => none)
        (.submit "default/web" "1" submitted) = some docs ∧ stored ≠ submitted ∧
      ∃ epa : EpaResource String, (epaResource .plain namedMetadata).decode stored = some epa ∧
        (epaResource .plain namedMetadata).encode epa = stored ∧
        (validateEpaSpec (ofSpec epa.spec)).accepts = true ∧ withDefaults epa = epa ∧
        ∀ uid, apiStep .plain replaceWhole namedMetadata (fun _ => "") docs
          (.submit "default/web" uid stored) = some docs := by
  intro stored docs
  have hadmitted : admitted .plain replaceWhole namedMetadata (fun _ => "") "1" submitted =
      some stored := by
    refine (admitted_eq_some_iff replaceWhole_lawful).2 ⟨submittedEpa, decode_submitted, ?_, ?_⟩
    · decide +kernel
    · rw [withDefaults_submittedEpa]
  have hstep : apiStep .plain replaceWhole namedMetadata (fun _ => "") (fun _ => none)
      (.submit "default/web" "1" submitted) = some docs := by
    simp only [apiStep]
    rw [hadmitted]
  have hreach : (apiSystem .plain replaceWhole namedMetadata fun _ => "").Reachable
      (WellTyped namedMetadata) docs := by
    refine ⟨fun _ => none, [.submit "default/web" "1" submitted], rfl, .cons ?_ hstep (.nil _)⟩
    exact trivial
  have hcomplete := stored_complete replaceWhole_lawful hreach
    (Function.update_self "default/web" (some stored) fun _ => none)
  refine ⟨hstep, ?_, hcomplete⟩
  intro hsame
  have hvalid : (epaResource .plain namedMetadata).Valid storedEpa := by
    rw [← withDefaults_submittedEpa]
    exact valid_withDefaults ((epaResource .plain namedMetadata).valid_of_decode _ _
      decode_submitted)
  have hread := (epaResource .plain namedMetadata).decode_encode storedEpa hvalid
  rw [show (epaResource .plain namedMetadata).encode storedEpa = submitted from hsame,
    decode_submitted] at hread
  exact absurd (congrArg (fun epa => epa.spec.minReplicas) (Option.some.inj hread)) (by decide)

end Example

end ExternalPodAutoscaler.Webhook
