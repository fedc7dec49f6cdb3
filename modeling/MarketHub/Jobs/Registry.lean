import MarketHub.Python.JsonScan

/-!
From a message body to a job (`app/jobs/registry.py` and `app/jobs/models.py`).

* `extractPayload`: `_extract_payload`, which descends into `detail` and decodes strings on its way.
* `LastLevel`: the object with a `job_type` that the levels of a body end in.
* `IsJob`: the job of a body, by the grammar.
* `parse_job_accepts_iff`: `parse_job` follows the grammar except on blank parameters that are no
  object, which it takes for none.
-/

namespace MarketHub

open Python

/-- `RECONCILE_PRIORITIES`. -/
def reconcilePriorities : Text := text "RECONCILE_PRIORITIES"

/-- `NOTIFY_STATUS_CHANGE`. -/
def notifyStatusChange : Text := text "NOTIFY_STATUS_CHANGE"

/-- `Job`. -/
structure Job where
  jobType : Text
  params : List (Text × Json)

/-- Why a body is refused. -/
inductive JobError where
  /-- `json.loads` raised. -/
  | json
  | value (message : String)

/-- The first lines of `_extract_payload`: a string is decoded. -/
def decoded : Json → Except JobError Json
  | .str s => (loads s).elim (.error .json) .ok
  | raw => .ok raw

/-- A string counts for more than what it decodes to. -/
lemma size_decoded {raw v : Json} (h : decoded raw = .ok v) : v.size ≤ raw.size := by
  rw [decoded.eq_def] at h
  split at h
  · rename_i s
    cases hs : loads s with
    | none =>
        rw [hs] at h
        cases h
    | some v' =>
        rw [hs] at h
        cases h
        have hsize := size_loads hs
        rw [Json.size.eq_1]
        omega
  · cases h
    exact le_rfl

/-- A member of what is decoded is smaller. -/
lemma size_detail {raw detail : Json} {fields : List (Text × Json)} {key : Text}
    (h : decoded raw = .ok (.obj fields)) (hdetail : get fields key = some detail) :
    detail.size < raw.size := by
  have hraw := size_decoded h
  have hfield := size_get hdetail
  rw [Json.size] at hraw
  omega

/-- `_extract_payload`. -/
def extractPayload (raw : Json) : Except JobError (List (Text × Json)) :=
  match h : decoded raw with
  | .error e => .error e
  | .ok (.obj fields) =>
      if (get fields (text "job_type")).isSome then .ok fields
      else
        match hdetail : get fields (text "detail") with
        | some detail =>
            if detail.truthy then
              have : detail.size < raw.size := size_detail h hdetail
              extractPayload detail
            else .error (.value "job_type is required")
        | none => .error (.value "job_type is required")
  | .ok _ => .error (.value "job payload must be an object")
termination_by raw.size

/-- `payload.get("params") or {}`. -/
def paramsOf (payload : List (Text × Json)) : Json :=
  match get payload (text "params") with
  | some params => if params.truthy then params else .obj []
  | none => .obj []

/-- The checks of `parse_job`. -/
def jobOf (payload : List (Text × Json)) : Except JobError Job :=
  match get payload (text "job_type") with
  | some (.str jobType) =>
      if jobType = [] then .error (.value "job_type is required")
      else
        match paramsOf payload with
        | .obj params => .ok ⟨jobType, params⟩
        | _ => .error (.value "params must be an object")
  | _ => .error (.value "job_type is required")

/-- `parse_job`. -/
def parseJob (body : Text) : Except JobError Job :=
  match loads body with
  | none => .error .json
  | some raw =>
      match extractPayload raw with
      | .error e => .error e
      | .ok payload => jobOf payload

/-! ### The grammar of jobs -/

/-- A level, of which a string is decoded once. -/
inductive Decodes : Json → Json → Prop where
  | string {s v} : loads s = some v → Decodes (.str s) v
  | value {v} : (∀ s, v ≠ .str s) → Decodes v v

/-- The levels from `raw` on are objects, of which the last has a `job_type` and each other one
has the next as its `detail`. -/
inductive LastLevel : Json → List (Text × Json) → Prop where
  | last {raw fields} : Decodes raw (.obj fields) → get fields (text "job_type") ≠ none →
      LastLevel raw fields
  | detail {raw fields detail last} : Decodes raw (.obj fields) →
      get fields (text "job_type") = none → get fields (text "detail") = some detail →
      LastLevel detail last → LastLevel raw last

/-- The last level of a body. -/
def BodyLevel (body : Text) (last : List (Text × Json)) : Prop :=
  ∃ raw, loads body = some raw ∧ LastLevel raw last

/-- The parameters of a level: none, `null` or an object. -/
inductive Params (last : List (Text × Json)) : List (Text × Json) → Prop where
  | absent : get last (text "params") = none → Params last []
  | null : get last (text "params") = some .null → Params last []
  | object {params} : get last (text "params") = some (.obj params) → Params last params

/-- The job of a body: the type and the parameters of its last level. -/
def IsJob (body : Text) (job : Job) : Prop :=
  ∃ last, BodyLevel body last ∧ get last (text "job_type") = some (.str job.jobType)
    ∧ job.jobType ≠ [] ∧ Params last job.params

/-- A blank value that is neither `null` nor an object. -/
def Blank (v : Json) : Prop :=
  v = .bool false ∨ v = .int 0 ∨ (∃ negative, v = .float (.finite negative 0))
    ∨ v = .str [] ∨ v = .arr []

/-- The last level of a body has a type, and parameters that are blank but no object. -/
def BlankParams (body : Text) : Prop :=
  ∃ last jobType params, BodyLevel body last ∧ get last (text "job_type") = some (.str jobType)
    ∧ jobType ≠ [] ∧ get last (text "params") = some params ∧ Blank params

lemma decoded_eq_ok_iff {raw v : Json} : decoded raw = .ok v ↔ Decodes raw v := by
  constructor
  · intro h
    rw [decoded.eq_def] at h
    split at h
    · rename_i s
      cases hs : loads s with
      | none =>
          rw [hs] at h
          cases h
      | some v' =>
          rw [hs] at h
          cases h
          exact .string hs
    · rename_i hne
      cases h
      exact .value fun s hs => hne s hs
  · rintro (⟨hs⟩ | ⟨hne⟩)
    · rw [decoded, hs]
      rfl
    · rw [decoded.eq_def]
      split
      · rename_i s
        exact absurd rfl (hne s)
      · rfl

lemma Decodes.unique {raw v v' : Json} (h : Decodes raw v) (h' : Decodes raw v') : v = v' :=
  Except.ok.inj ((decoded_eq_ok_iff.mpr h).symm.trans (decoded_eq_ok_iff.mpr h'))

/-- The last level from an object on. -/
lemma lastLevel_iff {raw : Json} {fields last : List (Text × Json)}
    (h : Decodes raw (.obj fields)) :
    LastLevel raw last ↔
      (get fields (text "job_type") ≠ none ∧ fields = last)
        ∨ get fields (text "job_type") = none
          ∧ ∃ detail, get fields (text "detail") = some detail ∧ LastLevel detail last := by
  constructor
  · intro hlast
    cases hlast with
    | last hraw hjob =>
        cases h.unique hraw
        exact .inl ⟨hjob, rfl⟩
    | detail hraw hjob hdetail hrest =>
        cases h.unique hraw
        exact .inr ⟨hjob, _, hdetail, hrest⟩
  · rintro (⟨hjob, rfl⟩ | ⟨hjob, detail, hdetail, hrest⟩)
    · exact .last h hjob
    · exact .detail h hjob hdetail hrest

/-- A value that is no object has no levels. -/
lemma LastLevel.decodes {raw : Json} {last : List (Text × Json)} (h : LastLevel raw last) :
    ∃ fields, Decodes raw (.obj fields) ∧ fields ≠ [] := by
  cases h with
  | last hraw hjob =>
      refine ⟨_, hraw, ?_⟩
      rintro rfl
      exact hjob rfl
  | detail hraw _ hdetail _ =>
      refine ⟨_, hraw, ?_⟩
      rintro rfl
      cases hdetail

/-- A blank value has no levels, so that nothing is lost with a blank `detail`. -/
lemma LastLevel.truthy {raw : Json} {last : List (Text × Json)} (h : LastLevel raw last) :
    raw.truthy = true := by
  obtain ⟨fields, hraw, hne⟩ := h.decodes
  cases hraw with
  | string hs =>
      rename_i s
      cases s with
      | nil => cases hs
      | cons => rfl
  | value _ => simpa [Json.truthy] using hne

/-- **`_extract_payload` finds the last level.** -/
lemma extractPayload_eq_ok_iff {raw : Json} {last : List (Text × Json)} :
    extractPayload raw = .ok last ↔ LastLevel raw last := by
  fun_induction extractPayload raw with
  -- undecodable, the last level, an envelope with a detail, with a falsy one, without, no object
  | case1 raw e h =>
      refine iff_of_false (fun herr => by cases herr) fun hlast => ?_
      obtain ⟨fields, hraw, -⟩ := hlast.decodes
      rw [decoded_eq_ok_iff.mpr hraw] at h
      cases h
  | case2 raw fields h hjob =>
      rw [lastLevel_iff (decoded_eq_ok_iff.mp h), Except.ok.injEq]
      have hsome := Option.isSome_iff_ne_none.mp hjob
      exact ⟨fun heq => .inl ⟨hsome, heq⟩,
        fun hor => (hor.resolve_right fun hnone => hsome hnone.1).2⟩
  | case3 raw fields h hjob detail hdetail htruthy hlt ih =>
      have hnone : get fields (text "job_type") = none := by simpa using hjob
      rw [ih, lastLevel_iff (decoded_eq_ok_iff.mp h)]
      constructor
      · exact fun hlast => .inr ⟨hnone, detail, hdetail, hlast⟩
      · rintro (⟨hsome, -⟩ | ⟨-, detail', hdetail', hlast⟩)
        · exact absurd hnone hsome
        · cases hdetail.symm.trans hdetail'
          exact hlast
  | case4 raw fields h hjob detail hdetail htruthy =>
      have hnone : get fields (text "job_type") = none := by simpa using hjob
      rw [lastLevel_iff (decoded_eq_ok_iff.mp h)]
      refine iff_of_false (fun herr => by cases herr) ?_
      rintro (⟨hsome, -⟩ | ⟨-, detail', hdetail', hlast⟩)
      · exact hsome hnone
      · cases hdetail.symm.trans hdetail'
        exact htruthy hlast.truthy
  | case5 raw fields h hjob hdetail =>
      have hnone : get fields (text "job_type") = none := by simpa using hjob
      rw [lastLevel_iff (decoded_eq_ok_iff.mp h)]
      refine iff_of_false (fun herr => by cases herr) ?_
      rintro (⟨hsome, -⟩ | ⟨-, detail', hdetail', -⟩)
      · exact hsome hnone
      · cases hdetail.symm.trans hdetail'
  | case6 raw v hne h =>
      refine iff_of_false (fun herr => by cases herr) fun hlast => ?_
      obtain ⟨fields, hraw, -⟩ := hlast.decodes
      exact hne fields ((decoded_eq_ok_iff.mp h).unique hraw)

/-- **`parse_job` checks the last level.** -/
lemma BodyLevel.parseJob_eq {body : Text} {last : List (Text × Json)} (h : BodyLevel body last) :
    parseJob body = jobOf last := by
  obtain ⟨raw, hraw, hlast⟩ := h
  rw [parseJob, hraw]
  dsimp only
  rw [extractPayload_eq_ok_iff.mpr hlast]

/-- A body without a last level gives no job. -/
lemma parseJob_eq_ok_iff {body : Text} {job : Job} :
    parseJob body = .ok job ↔ ∃ last, BodyLevel body last ∧ jobOf last = .ok job := by
  constructor
  · intro h
    rw [parseJob] at h
    split at h
    · cases h
    · rename_i raw hraw
      split at h
      · cases h
      · rename_i last hlast
        exact ⟨last, ⟨raw, hraw, extractPayload_eq_ok_iff.mp hlast⟩, h⟩
  · rintro ⟨last, hlast, hjob⟩
    rw [hlast.parseJob_eq, hjob]

/-- A body has one last level. -/
lemma BodyLevel.unique {body : Text} {last last' : List (Text × Json)} (h : BodyLevel body last)
    (h' : BodyLevel body last') : last = last' := by
  obtain ⟨raw, hraw, hlast⟩ := h
  obtain ⟨raw', hraw', hlast'⟩ := h'
  cases hraw.symm.trans hraw'
  exact Except.ok.inj
    ((extractPayload_eq_ok_iff.mpr hlast).symm.trans (extractPayload_eq_ok_iff.mpr hlast'))

/-- The values that count as none, among those that are not `null` and no object. -/
lemma blank_iff (v : Json) :
    Blank v ↔ v.truthy = false ∧ v ≠ .null ∧ ∀ fields, v ≠ .obj fields := by
  cases v with
  | float x => cases x <;> simp [Blank, Json.truthy]
  | _ => simp [Blank, Json.truthy]

/-- **The parameters that `parse_job` takes.** -/
lemma paramsOf_eq_iff {last params : List (Text × Json)} :
    paramsOf last = .obj params ↔
      Params last params ∨ params = [] ∧ ∃ v, get last (text "params") = some v ∧ Blank v := by
  rw [paramsOf.eq_def]
  constructor
  · intro h
    split at h
    · rename_i v hv
      split at h
      · cases h
        exact .inl (.object hv)
      · rename_i hblank
        cases h
        -- a value that is neither null nor an object is blank
        by_cases hnull : v = .null
        · exact .inl (.null (hnull ▸ hv))
        · by_cases hobj : ∃ fields, v = .obj fields
          · obtain ⟨fields, rfl⟩ := hobj
            have hempty : fields = [] := by simpa [Json.truthy] using hblank
            exact .inl (.object (hempty ▸ hv))
          · refine .inr ⟨rfl, v, hv, (blank_iff v).mpr ⟨by simpa using hblank, hnull, ?_⟩⟩
            exact fun fields heq => hobj ⟨fields, heq⟩
    · rename_i hnone
      cases h
      exact .inl (.absent hnone)
  · rintro (hparams | ⟨rfl, v, hv, hblank⟩)
    · cases hparams with
      | absent hnone => rw [hnone]
      | null hnull =>
          rw [hnull]
          rfl
      | object hobj =>
          rw [hobj]
          dsimp only
          split
          · rfl
          · rename_i hempty
            have : params = [] := by simpa [Json.truthy] using hempty
            rw [this]
    · rw [hv]
      simp [((blank_iff v).mp hblank).1]

/-- **The jobs of `parse_job`** are those of the grammar, and those of blank parameters. -/
lemma parseJob_iff {body : Text} {job : Job} :
    parseJob body = .ok job ↔ IsJob body job ∨
      ∃ last, BodyLevel body last ∧ get last (text "job_type") = some (.str job.jobType)
        ∧ job.jobType ≠ [] ∧ job.params = []
        ∧ ∃ v, get last (text "params") = some v ∧ Blank v := by
  have hjobOf : ∀ last, jobOf last = .ok job ↔
      get last (text "job_type") = some (.str job.jobType) ∧ job.jobType ≠ []
        ∧ paramsOf last = .obj job.params := by
    intro last
    rw [jobOf.eq_def]
    constructor
    · intro h
      split at h
      · rename_i jobType hget
        split at h
        · cases h
        · rename_i hne
          split at h
          · rename_i params hparams
            cases h
            exact ⟨hget, hne, hparams⟩
          · cases h
      · cases h
    · rintro ⟨hget, hne, hparams⟩
      rw [hget]
      dsimp only
      rw [if_neg hne, hparams]
  rw [parseJob_eq_ok_iff]
  constructor
  · rintro ⟨last, hlast, hjob⟩
    obtain ⟨hget, hne, hparams⟩ := (hjobOf last).mp hjob
    rcases paramsOf_eq_iff.mp hparams with hparams | ⟨hempty, hblank⟩
    · exact .inl ⟨last, hlast, hget, hne, hparams⟩
    · exact .inr ⟨last, hlast, hget, hne, hempty, hblank⟩
  · rintro (⟨last, hlast, hget, hne, hparams⟩ | ⟨last, hlast, hget, hne, hempty, hblank⟩)
    · exact ⟨last, hlast, (hjobOf last).mpr ⟨hget, hne, paramsOf_eq_iff.mpr (.inl hparams)⟩⟩
    · exact ⟨last, hlast, (hjobOf last).mpr
        ⟨hget, hne, paramsOf_eq_iff.mpr (.inr ⟨hempty, hblank⟩)⟩⟩

lemma Params.not_blank {last params : List (Text × Json)} {v : Json} (h : Params last params)
    (hv : get last (text "params") = some v) : ¬ Blank v := by
  intro hblank
  obtain ⟨-, hnull, hobj⟩ := (blank_iff v).mp hblank
  cases h with
  | absent hnone => cases hnone.symm.trans hv
  | null h => exact hnull (Option.some.inj (hv.symm.trans h))
  | object h => exact hobj _ (Option.some.inj (hv.symm.trans h))

/-- **`parse_job` follows the grammar** on a body unless its parameters are blank but no object;
and bodies with one last level give one job, whatever envelopes and encodings lead to it. -/
theorem parse_job_accepts_iff (body : Text) :
    ((∀ job, parseJob body = .ok job ↔ IsJob body job) ↔ ¬ BlankParams body)
      ∧ ∀ body' last, BodyLevel body last → BodyLevel body' last →
        parseJob body = parseJob body' := by
  constructor
  · constructor
    · rintro hgrammar ⟨last, jobType, v, hlast, hget, hne, hv, hblank⟩
      have hok : parseJob body = .ok ⟨jobType, []⟩ :=
        parseJob_iff.mpr (.inr ⟨last, hlast, hget, hne, rfl, v, hv, hblank⟩)
      obtain ⟨last', hlast', -, -, hparams⟩ := (hgrammar _).mp hok
      cases hlast.unique hlast'
      exact hparams.not_blank hv hblank
    · intro hnot job
      rw [parseJob_iff]
      refine or_iff_left ?_
      rintro ⟨last, hlast, hget, hne, -, v, hv, hblank⟩
      exact hnot ⟨last, _, v, hlast, hget, hne, hv, hblank⟩
  · intro body' last hlast hlast'
    rw [hlast.parseJob_eq, hlast'.parseJob_eq]

/-- A job, and the same in an envelope whose `detail` is given as a string. -/
theorem parse_job_accepts_iff_envelope :
    parseJob (text "\x7b\"job_type\": \"RECONCILE_PRIORITIES\"\x7d")
      = parseJob
        (text
          "\x7b\"detail\": \"\x7b\\\"job_type\\\": \\\"RECONCILE_PRIORITIES\\\"\x7d\"\x7d") := by
  have hplain : LastLevel (.obj [(text "job_type", .str reconcilePriorities)])
      [(text "job_type", .str reconcilePriorities)] :=
    .last (.value fun s hs => by cases hs) (by simp [get_cons])
  refine (parse_job_accepts_iff _).2 _ [(text "job_type", .str reconcilePriorities)]
    ⟨_, rfl, hplain⟩
    ⟨_, rfl, .detail (.value fun s hs => by cases hs) (by rfl) (by rfl) ?_⟩
  exact .last (.string rfl) (by simp [get_cons])

/-- Parameters that are an empty array: `or {}` takes them for none. -/
theorem parse_job_blank_params : ¬ ∀ body job, parseJob body = .ok job ↔ IsJob body job := by
  intro hgrammar
  have hlast : BodyLevel (text "\x7b\"job_type\": \"RECONCILE_PRIORITIES\", \"params\": []\x7d")
      [(text "job_type", .str reconcilePriorities), (text "params", .arr [])] :=
    ⟨_, rfl, .last (.value fun s hs => by cases hs) (by simp [get_cons])⟩
  have hok : parseJob (text "\x7b\"job_type\": \"RECONCILE_PRIORITIES\", \"params\": []\x7d")
      = .ok ⟨reconcilePriorities, []⟩ := by
    rw [hlast.parseJob_eq]
    rfl
  obtain ⟨last', hlast', -, -, hparams⟩ := (hgrammar _ _).mp hok
  cases hlast.unique hlast'
  exact hparams.not_blank rfl (.inr (.inr (.inr (.inr rfl))))

end MarketHub
