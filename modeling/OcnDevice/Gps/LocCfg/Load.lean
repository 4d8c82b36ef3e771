import OcnDevice.Gps.LocCfg.Model

/-!
# Loading a configuration

A file and a buffer with the same text should set the same parameters, each to the value that the
text has for it.  One line does: `fill_eq` says that a line which names a parameter sets it to its
value and counts as one, with or without a newline behind it, and that any other line does nothing.
So both loops take lines until as many parameters are set as they count down from (`upTo`).

For `loc_read_conf_r` this is the length of the table, so nothing is missed.  `loc_update_conf`
starts one below: it stops before the last parameter when all are in the text.  It also returns the
number of lines that it took, which are not all assignments.
-/

open CString

namespace Gps.LocCfg

/-! ## Statement -/

/-- The lines of a text. -/
def lines (text : List Char) : List (List Char) := text.splitOn '\n'

/-- What a line assigns: the name and the value around its one `=`, trimmed. -/
def assignment (line : List Char) : Option (List Char × List Char) :=
  match line.splitOn '=' with
  | [name, value] => if Blank name ∨ Blank value then none else some (strip name, strip value)
  | _ => none

section

variable (params : List Param) (text : List Char)

/-- The names of the parameters. -/
def names : List (List Char) := params.map Param.paramName

/-- The line assigns a parameter of the table. -/
def Known (line : List Char) : Bool :=
  match assignment line with
  | some (name, _) => name ∈ names params
  | none => false

/-- The parameters of the table that lines assign, in order. -/
def assignedIn (ls : List (List Char)) : List (List Char) :=
  ((ls.filterMap assignment).map Prod.fst).filter (· ∈ names params)

/-- The line is a comment, a blank line or one for an unknown key, unless it is an assignment. -/
def Admissible (line : List Char) : Prop :=
  assignment line = none → '=' ∈ line → ∀ tok rest, strtok '=' line = some (tok, rest) →
    locUtilTrimSpace tok ∉ names params

/-- **A text for a table**: the names of the table are distinct, and the lines of the text are short
and assign each parameter at most once. -/
structure Regular : Prop where
  nodup : (names params).Nodup
  length_lt : params.length < 2 ^ 32
  short : ∀ line ∈ lines text, line.length < locMaxParamLine
  admissible : ∀ line ∈ lines text, Admissible params line
  once : (assignedIn params (lines text)).Nodup

end

/-- The value that lines have for a name. -/
def valueOf (ls : List (List Char)) (name : List Char) : Option (List Char) :=
  (ls.filterMap assignment).lookup name

section

variable (atof : List Char → BitVec 64)

/-- An entry with the value that lines have for it, if they have one. -/
def Entry.loaded (ls : List (List Char)) (e : Entry) : Entry :=
  match valueOf ls e.paramName with
  | some value => e.store (configValue atof e.paramName value)
  | none => e

/-- **Both functions load the text**, and `loc_update_conf` returns how many parameters it set. -/
structure Right (text : List Char) (table : List Entry) : Prop where
  read : (locReadConfR atof text table).1 = table.map fun e => e.clear.loaded atof (lines text)
  update : (locUpdateConf atof text table).1 = table.map fun e => e.loaded atof (lines text)
  returns : (locUpdateConf atof text table).2 =
    (assignedIn (table.map Entry.toParam) (lines text)).length

end

/-- The lines up to the one with the last of a number of assignments. -/
def upTo (params : List Param) : ℕ → List (List Char) → List (List Char)
  | 0, _ => []
  | _, [] => []
  | num + 1, line :: ls =>
      line :: upTo params (if Known params line then num else num + 1) ls

/-- **A parameter is left out**, and there is nothing but assignments up to the last one that is
looked for. -/
structure LeavesOneOut (params : List Param) (text : List Char) : Prop where
  text_ne : text ≠ []
  params_ne : params ≠ []
  lt : (assignedIn params (lines text)).length < params.length
  known : ∀ line ∈ upTo params (params.length - 1) ((lines text).filter (· ≠ [])), Known params line

/-! ## Trimming -/

/-- **What the scan does**: the spaces in front are skipped, and the string is cut behind the last
character that is none. -/
lemma scan_eq (s : List Char) : s.foldl Scan.step ⟨false, [], none⟩ =
    ⟨s.dropWhile isspace ≠ [], s.dropWhile isspace,
      if s.dropWhile isspace = [] then none else some (strip s).length⟩ := by
  induction s using List.reverseRecOn with
  | nil => rfl
  | append_singleton s c ih =>
      rw [List.foldl_append, ih]
      have hdrop : (s ++ [c]).dropWhile isspace =
          if s.dropWhile isspace = [] then [c].dropWhile isspace
          else s.dropWhile isspace ++ [c] := by
        rw [List.dropWhile_append]
        simp
      by_cases hnil : s.dropWhile isspace = []
      · cases hc : isspace c with
        | true => simp [Scan.step, hdrop, hnil, hc]
        | false => simp [Scan.step, hdrop, hnil, hc, strip, List.rdropWhile_singleton]
      · cases hc : isspace c with
        | true =>
            have hstrip : strip (s ++ [c]) = strip s := by
              rw [strip, hdrop, if_neg hnil, List.rdropWhile_concat_pos _ _ _ hc, strip]
            simp [Scan.step, hdrop, hnil, hc, hstrip]
        | false =>
            have hstrip : strip (s ++ [c]) = s.dropWhile isspace ++ [c] := by
              rw [strip, hdrop, if_neg hnil, List.rdropWhile_concat_neg _ _ _ (by simp [hc])]
            simp [Scan.step, hdrop, hnil, hc, hstrip]

/-- **A string that is not blank is trimmed.** -/
lemma locUtilTrimSpace_eq {s : List Char} (h : ¬ Blank s) : locUtilTrimSpace s = strip s := by
  rw [locUtilTrimSpace, scan_eq]
  simp only [if_neg (dropWhile_ne_nil h)]
  exact List.prefix_iff_eq_take.mp (List.rdropWhile_prefix _ _) |>.symm

/-! ## A line -/

section Line

variable {line name value : List Char}

/-- The two sides of an assignment. -/
lemma assignment_eq_some (h : assignment line = some (name, value)) : ∃ a b,
    line = a ++ '=' :: b ∧ '=' ∉ a ∧ '=' ∉ b ∧ ¬ Blank a ∧ ¬ Blank b ∧
      name = strip a ∧ value = strip b := by
  rw [assignment] at h
  split at h
  · rename_i a b hsplit
    split_ifs at h with hblank
    cases h
    have hline : ['='].intercalate (line.splitOn '=') = line := List.intercalate_splitOn '='
    rw [hsplit] at hline
    have ha : '=' ∉ a := not_mem_of_mem_splitOn (s := line) (by simp [hsplit])
    have hb : '=' ∉ b := not_mem_of_mem_splitOn (s := line) (by simp [hsplit])
    exact ⟨a, b, by simpa [List.intercalate] using hline.symm, ha, hb, (not_or.mp hblank).1,
      (not_or.mp hblank).2, rfl, rfl⟩
  · cases h

/-- What is made of an assignment, with or without a newline behind it. -/
lemma lineValue_eq (atof : List Char → BitVec 64) (h : assignment line = some (name, value)) :
    lineValue atof line = some (configValue atof name value) ∧
      lineValue atof (line ++ ['\n']) = some (configValue atof name value) := by
  obtain ⟨a, b, rfl, ha, hb, hblanka, hblankb, rfl, rfl⟩ := assignment_eq_some h
  have hane : a ≠ [] := by
    rintro rfl
    exact hblanka (by simp [Blank])
  have hbne : b ≠ [] := by
    rintro rfl
    exact hblankb (by simp [Blank])
  have hb' : '=' ∉ b ++ ['\n'] := by simp [hb]
  have hblankb' : ¬ Blank (b ++ ['\n']) := fun h => hblankb fun c hc => h c (by simp [hc])
  have happend : a ++ '=' :: b ++ ['\n'] = a ++ '=' :: (b ++ ['\n']) := by simp
  constructor
  · rw [lineValue, strtok_append_cons hane ha, Option.bind_some, strtok_of_not_mem hbne hb,
      Option.map_some, locUtilTrimSpace_eq hblanka, locUtilTrimSpace_eq hblankb]
  · rw [happend, lineValue, strtok_append_cons hane ha, Option.bind_some,
      strtok_of_not_mem (by simp) hb', Option.map_some, locUtilTrimSpace_eq hblanka,
      locUtilTrimSpace_eq hblankb', strip_concat hblankb (by decide)]

lemma paramName_configValue {atof : List Char → BitVec 64} :
    (configValue atof name value).paramName = name := by
  unfold configValue
  split
  · split_ifs <;> rfl
  · rfl

/-- The name of what is made of a line is its first token. -/
lemma lineValue_name {atof : List Char → BitVec 64} {v : ConfigValue}
    (h : lineValue atof line = some v) :
    ∃ tok rest, strtok '=' line = some (tok, rest) ∧ rest ≠ [] ∧
      v.paramName = locUtilTrimSpace tok := by
  obtain ⟨⟨tok, rest⟩, htok, hv⟩ := Option.bind_eq_some_iff.mp h
  obtain ⟨w, hw, rfl⟩ := Option.map_eq_some_iff.mp hv
  refine ⟨tok, rest, htok, ?_, paramName_configValue⟩
  rintro rfl
  cases hw

/-- **What is made of another line** is for a key that the table does not have. -/
lemma lineValue_other {params : List Param} (atof : List Char → BitVec 64) {v : ConfigValue}
    (hadm : Admissible params line) (hnone : assignment line = none)
    (h : lineValue atof line = some v ∨ lineValue atof (line ++ ['\n']) = some v) :
    v.paramName ∉ names params := by
  have hfirst : ∃ tok rest, strtok '=' line = some (tok, rest) ∧
      v.paramName = locUtilTrimSpace tok ∧ '=' ∈ line := by
    by_cases hmem : '=' ∈ line
    · rcases h with h | h
      · obtain ⟨tok, rest, htok, -, hname⟩ := lineValue_name h
        exact ⟨tok, rest, htok, hname, hmem⟩
      · obtain ⟨tok, rest, htok, hrest, hname⟩ := lineValue_name h
        rcases strtok_concat (by decide) htok with hnil | ⟨rest', htok'⟩
        · exact absurd hnil hrest
        · exact ⟨tok, rest', htok', hname, hmem⟩
    · -- without an `=` there is no second token
      exfalso
      have hrest : ∀ l : List Char, '=' ∉ l → lineValue atof l ≠ some v := by
        intro l hl hv
        obtain ⟨tok, rest, htok, hrest, -⟩ := lineValue_name hv
        cases l with
        | nil => cases htok
        | cons c l =>
            rw [strtok_of_not_mem (by simp) hl] at htok
            cases htok
            exact hrest rfl
      rcases h with h | h
      · exact hrest line hmem h
      · exact hrest (line ++ ['\n']) (by simp [hmem]) h
  obtain ⟨tok, rest, htok, hname, hmem⟩ := hfirst
  rw [hname]
  exact hadm hnone hmem tok rest htok

end Line

/-! ## A line and the table -/

section Fill

variable {atof : List Char → BitVec 64} {params : List Param} {table : List Entry}
  {line l : List Char}

/-- What a line does to an entry. -/
def Entry.loadLine (atof : List Char → BitVec 64) (line : List Char) (e : Entry) : Entry :=
  match assignment line with
  | some (name, value) =>
      if e.paramName = name then e.store (configValue atof name value) else e
  | none => e

@[simp] lemma toParam_store {e : Entry} {v : ConfigValue} : (e.store v).toParam = e.toParam := rfl

@[simp] lemma toParam_loadLine {e : Entry} : (e.loadLine atof line).toParam = e.toParam := by
  rw [Entry.loadLine]
  split
  · split_ifs <;> rfl
  · rfl

/-- **A line fills its parameter**, and any other line fills none. -/
theorem fill_eq (atof : List Char → BitVec 64) (hnodup : (names params).Nodup)
    (hparams : table.map Entry.toParam = params)
    (hadm : Admissible params line) (hl : l = line ∨ l = line ++ ['\n']) :
    locFillConfItem atof l table =
      (table.map (Entry.loadLine atof line), if Known params line then 1 else 0) := by
  have hnames : table.map (fun e => e.paramName) = names params := by
    rw [names, ← hparams, List.map_map]
    rfl
  cases hline : assignment line with
  | some p =>
      obtain ⟨name, value⟩ := p
      have hvalue : lineValue atof l = some (configValue atof name value) := by
        rcases hl with rfl | rfl
        · exact (lineValue_eq atof hline).1
        · exact (lineValue_eq atof hline).2
      rw [locFillConfItem, hvalue]
      refine Prod.ext (List.map_congr_left fun e he => ?_) ?_
      · simp only [Entry.locSetConfigEntry, paramName_configValue, Entry.loadLine, hline]
        split_ifs <;> rfl
      · have hcount : table.countP (fun e => (e.locSetConfigEntry
            (configValue atof name value)).isSome) = (names params).count name := by
          rw [← hnames, List.count, List.countP_map]
          refine List.countP_congr fun e he => ?_
          rw [Entry.locSetConfigEntry, paramName_configValue]
          split_ifs with heq <;> simp [heq]
        simp only [hcount, Known, hline, decide_eq_true_eq]
        split_ifs with hmem
        · exact List.count_eq_one_of_mem hnodup hmem
        · exact List.count_eq_zero_of_not_mem hmem
  | none =>
      have hsame : table.map (Entry.loadLine atof line) = table := by
        refine (List.map_congr_left fun e he => ?_).trans (List.map_id _)
        rw [Entry.loadLine, hline]
        rfl
      have hknown : Known params line = false := by rw [Known, hline]
      rw [locFillConfItem, hsame, hknown]
      cases hvalue : lineValue atof l with
      | none => rfl
      | some v =>
          have hname : v.paramName ∉ names params := by
            refine lineValue_other atof hadm hline ?_
            rcases hl with rfl | rfl
            · exact Or.inl hvalue
            · exact Or.inr hvalue
          have hset : ∀ e ∈ table, e.locSetConfigEntry v = none := fun e he => by
            refine if_neg fun heq : e.paramName = v.paramName => hname ?_
            rw [← heq, ← hnames]
            exact List.mem_map_of_mem he
          refine Prod.ext ((List.map_congr_left fun e he => ?_).trans (List.map_id _)) ?_
          · rw [hset e he]
            rfl
          · exact List.countP_eq_zero.mpr fun e he => by simp [hset e he]

/-! ### The loops -/

lemma map_toParam_loadLine (hparams : table.map Entry.toParam = params) :
    (table.map (Entry.loadLine atof line)).map Entry.toParam = params := by
  rw [List.map_map, ← hparams]
  exact List.map_congr_left fun e _ => toParam_loadLine

@[simp] lemma assignment_nil : assignment [] = none := rfl

@[simp] lemma loadLine_nil : Entry.loadLine atof [] = id := rfl

lemma subUint32_eq {a b : ℕ} (ha : a < 2 ^ 32) (hb : b ≤ a) : subUint32 a b = a - b := by
  rw [subUint32, Nat.mod_eq_of_lt (lt_of_le_of_lt hb ha)]
  omega

@[simp] lemma upTo_nil {num : ℕ} : upTo params num [] = [] := by
  cases num <;> rfl

@[simp] lemma upTo_zero {ls : List (List Char)} : upTo params 0 ls = [] := by
  cases ls <;> rfl

lemma upTo_cons {num : ℕ} {ls : List (List Char)} (h : num ≠ 0) : upTo params num (line :: ls) =
    line :: upTo params (num - if Known params line then 1 else 0) ls := by
  obtain ⟨m, rfl⟩ := Nat.exists_eq_succ_of_ne_zero h
  rw [upTo]
  cases Known params line <;> rfl

/-- The count goes down by one behind a line that fills a parameter. -/
lemma subUint32_known {num : ℕ} (hnum : num < 2 ^ 32) (h : num ≠ 0) :
    subUint32 num (if Known params line then 1 else 0) =
      num - if Known params line then 1 else 0 :=
  subUint32_eq hnum (by split_ifs <;> omega)

/-- What the lines do to an entry, one after another. -/
def Entry.loadLines (atof : List Char → BitVec 64) (ls : List (List Char)) (e : Entry) : Entry :=
  ls.foldl (fun e line => e.loadLine atof line) e

@[simp] lemma toParam_loadLines {ls : List (List Char)} {e : Entry} :
    (e.loadLines atof ls).toParam = e.toParam := by
  rw [Entry.loadLines]
  refine List.foldlRecOn ls (motive := fun e' : Entry => e'.toParam = e.toParam) _ rfl ?_
  intro e' he' line _
  rw [toParam_loadLine, he']

lemma map_loadLines_cons {ls : List (List Char)} :
    (table.map (Entry.loadLine atof line)).map (Entry.loadLines atof ls) =
      table.map (Entry.loadLines atof (line :: ls)) := by
  rw [List.map_map]
  rfl

lemma map_loadLines_nil : table.map (Entry.loadLines atof []) = table :=
  List.map_id _

/-- **`loc_update_conf` loads the lines up to the last parameter but one.** -/
theorem updateLoop_eq (hnodup : (names params).Nodup) {num : ℕ} {text : List Char} {ret : ℤ}
    (hnum : num < 2 ^ 32) (hparams : table.map Entry.toParam = params)
    (hadm : ∀ line ∈ (lines text).filter (· ≠ []), Admissible params line) :
    updateLoop atof num text ret table =
      (table.map (Entry.loadLines atof (upTo params num ((lines text).filter (· ≠ [])))),
        ret + (upTo params num ((lines text).filter (· ≠ []))).length) := by
  induction hn : text.length using Nat.strong_induction_on generalizing num text ret table with
  | _ n ih =>
      subst hn
      rw [updateLoop]
      split
      · rename_i hstrtok
        rw [lines, strtok_eq_none hstrtok, upTo_nil, map_loadLines_nil]
        simp
      · rename_i inputBuf rest hstrtok
        have hlines : (lines text).filter (· ≠ []) = inputBuf :: (lines rest).filter (· ≠ []) :=
          strtok_eq_some hstrtok
        rw [hlines] at hadm ⊢
        split_ifs with hzero
        · rw [hzero, upTo_zero, map_loadLines_nil]
          simp
        · have hfill := fill_eq atof hnodup hparams (hadm inputBuf List.mem_cons_self)
            (Or.inl rfl)
          simp only [hfill]
          rw [subUint32_known hnum hzero, ih _ (length_strtok hstrtok) (by omega)
            (map_toParam_loadLine hparams) (fun line h => hadm line (List.mem_cons_of_mem _ h)) rfl,
            upTo_cons hzero, map_loadLines_cons]
          simp only [List.length_cons, Nat.cast_succ, Prod.mk.injEq, true_and]
          ring

/-- One pass of the loop of `loc_read_conf_r`. -/
lemma readLoop_step (atof : List Char → BitVec 64) (hnodup : (names params).Nodup) {num : ℕ}
    {text rest : List Char} (hnum : num < 2 ^ 32) (hzero : num ≠ 0)
    (hparams : table.map Entry.toParam = params) (hadm : Admissible params line)
    (hl : l = line ∨ l = line ++ ['\n']) (h : fgets locMaxParamLine text = some (l, rest)) :
    readLoop atof num text table = readLoop atof (num - if Known params line then 1 else 0) rest
      (table.map (Entry.loadLine atof line)) := by
  rw [readLoop, if_neg hzero]
  split
  · rename_i hnone
    rw [h] at hnone
    cases hnone
  · rename_i inputBuf rest' hsome
    rw [h] at hsome
    cases hsome
    simp only [fill_eq atof hnodup hparams hadm hl, subUint32_known hnum hzero]

lemma readLoop_zero {text : List Char} : readLoop atof 0 text table = table := by
  rw [readLoop, if_pos rfl]

lemma readLoop_nil {num : ℕ} : readLoop atof num [] table = table := by
  rw [readLoop]
  split_ifs
  · rfl
  · rfl

lemma admissible_nil : Admissible params [] := fun _ h => absurd h List.not_mem_nil

/-- A newline that was left over is read as an empty line. -/
lemma readLoop_newline (hnodup : (names params).Nodup) {num : ℕ} {rest : List Char}
    (hnum : num < 2 ^ 32) (hparams : table.map Entry.toParam = params) :
    readLoop atof num ('\n' :: rest) table = readLoop atof num rest table := by
  rcases eq_or_ne num 0 with rfl | hzero
  · rw [readLoop_zero, readLoop_zero]
  · have hline : fgets locMaxParamLine ([] ++ '\n' :: rest) = some ([] ++ ['\n'], rest) :=
      fgets_line List.not_mem_nil (by decide)
    have hstep := readLoop_step atof hnodup hnum hzero hparams admissible_nil (Or.inr rfl) hline
    rw [loadLine_nil, List.map_id] at hstep
    exact hstep

/-- **`loc_read_conf_r` loads the lines up to the last parameter.** -/
theorem readLoop_eq (hnodup : (names params).Nodup) {num : ℕ} {text : List Char}
    (hnum : num < 2 ^ 32) (hparams : table.map Entry.toParam = params)
    (hshort : ∀ line ∈ lines text, line.length < locMaxParamLine)
    (hadm : ∀ line ∈ lines text, Admissible params line) :
    readLoop atof num text table =
      table.map (Entry.loadLines atof (upTo params num (lines text))) := by
  induction hn : text.length using Nat.strong_induction_on generalizing num text table with
  | _ n ih =>
      subst hn
      rcases eq_or_ne num 0 with rfl | hzero
      · rw [readLoop_zero, upTo_zero, map_loadLines_nil]
      by_cases hmem : '\n' ∈ text
      · obtain ⟨line, rest, rfl, hline⟩ := List.eq_append_cons_of_mem hmem
        have hlines : lines (line ++ '\n' :: rest) = line :: lines rest :=
          List.splitOn_append_cons_self_of_not_mem hline rest
        rw [hlines] at hshort hadm ⊢
        have hlen := hshort line List.mem_cons_self
        have hadmline := hadm line List.mem_cons_self
        have hsub : num - (if Known params line then 1 else 0) < 2 ^ 32 := by omega
        have hrest : readLoop atof num (line ++ '\n' :: rest) table =
            readLoop atof (num - if Known params line then 1 else 0) rest
              (table.map (Entry.loadLine atof line)) := by
          rcases Nat.lt_or_ge (line.length + 1) locMaxParamLine with hlt | hge
          · exact readLoop_step atof hnodup hnum hzero hparams hadmline (Or.inr rfl)
              (fgets_line hline hlt)
          · rw [readLoop_step atof hnodup hnum hzero hparams hadmline (Or.inl rfl)
              (fgets_full hline (by omega))]
            exact readLoop_newline hnodup hsub (map_toParam_loadLine hparams)
        rw [hrest, upTo_cons hzero, ← map_loadLines_cons]
        exact ih rest.length (by simp; omega) hsub (map_toParam_loadLine hparams)
          (fun l hl => hshort l (List.mem_cons_of_mem _ hl))
          (fun l hl => hadm l (List.mem_cons_of_mem _ hl)) rfl
      · have hlines : lines text = [text] := List.splitOn_eq_singleton hmem
        rw [hlines] at hshort hadm ⊢
        rw [upTo_cons hzero, upTo_nil, ← map_loadLines_cons, map_loadLines_nil]
        rcases eq_or_ne text [] with rfl | hne
        · rw [readLoop_nil, loadLine_nil, List.map_id]
        · rw [readLoop_step atof hnodup hnum hzero hparams (hadm text List.mem_cons_self)
            (Or.inl rfl) (fgets_last hne hmem (hshort text List.mem_cons_self)), readLoop_nil]

/-! ### What the lines say of a parameter -/

variable {ls ls' : List (List Char)} {e : Entry} {num : ℕ}

lemma assignedIn_append :
    assignedIn params (ls ++ ls') = assignedIn params ls ++ assignedIn params ls' := by
  simp [assignedIn]

lemma assignedIn_cons : assignedIn params (line :: ls) =
    (if Known params line then ((assignment line).map Prod.fst).toList else []) ++
      assignedIn params ls := by
  rw [assignedIn, List.filterMap_cons, Known]
  cases assignment line with
  | none => rfl
  | some p =>
      simp only [List.map_cons, List.filter_cons]
      split_ifs <;> rfl

lemma length_assignedIn_cons : (assignedIn params (line :: ls)).length =
    (if Known params line then 1 else 0) + (assignedIn params ls).length := by
  rw [assignedIn_cons, List.length_append]
  congr 1
  split_ifs with hk
  · rw [Known] at hk
    cases h : assignment line with
    | none => simp [h] at hk
    | some p => rfl
  · rfl

lemma mem_assignedIn {name : List Char} (hname : name ∈ names params) :
    name ∈ assignedIn params ls ↔ name ∈ (ls.filterMap assignment).map Prod.fst := by
  simp [assignedIn, hname]

/-- Lines that do not assign a parameter do nothing to it. -/
lemma loadLines_of_not_mem (atof : List Char → BitVec 64)
    (h : e.paramName ∉ (ls.filterMap assignment).map Prod.fst) :
    e.loadLines atof ls = e := by
  induction ls with
  | nil => rfl
  | cons line ls ih =>
      rw [List.filterMap_cons] at h
      have hline : e.loadLine atof line = e := by
        rw [Entry.loadLine]
        cases hline : assignment line with
        | none => rfl
        | some p =>
            simp only [hline, List.map_cons, List.mem_cons, not_or] at h
            exact if_neg h.1
      have hrest : e.paramName ∉ (ls.filterMap assignment).map Prod.fst := by
        cases hline : assignment line with
        | none => simpa [hline] using h
        | some p =>
            simp only [hline, List.map_cons, List.mem_cons, not_or] at h
            exact h.2
      rw [Entry.loadLines, List.foldl_cons, hline]
      exact ih hrest

/-- **A parameter that is assigned at most once** has the value that the lines have for it. -/
lemma loadLines_eq (h : ((ls.filterMap assignment).map Prod.fst).count e.paramName ≤ 1) :
    e.loadLines atof ls = e.loaded atof ls := by
  induction ls with
  | nil => rfl
  | cons line ls ih =>
      rw [List.filterMap_cons] at h
      rw [Entry.loadLines, List.foldl_cons, Entry.loaded, valueOf, List.filterMap_cons,
        Entry.loadLine]
      cases hline : assignment line with
      | none =>
          simp only [hline] at h
          exact ih h
      | some p =>
          obtain ⟨name, value⟩ := p
          simp only [hline, List.map_cons] at h
          rcases eq_or_ne e.paramName name with rfl | hne
          · rw [List.count_cons_self] at h
            have hnot : (e.store (configValue atof e.paramName value)).paramName ∉
                (ls.filterMap assignment).map Prod.fst :=
              List.count_eq_zero.mp (Nat.le_zero.mp (Nat.le_of_succ_le_succ h))
            simp only [if_true, List.lookup_cons_self]
            exact loadLines_of_not_mem atof hnot
          · rw [List.count_cons_of_ne hne.symm] at h
            simp only [if_neg hne, List.lookup_cons, beq_eq_false_iff_ne.mpr hne]
            exact ih h

lemma count_assigned_le (honce : (assignedIn params ls).Nodup) (he : e.paramName ∈ names params) :
    ((ls.filterMap assignment).map Prod.fst).count e.paramName ≤ 1 := by
  have hcount := List.nodup_iff_count_le_one.mp honce e.paramName
  rwa [assignedIn, List.count_filter (by simpa using he)] at hcount

lemma loaded_filter : e.loaded atof (ls.filter (· ≠ [])) = e.loaded atof ls := by
  have hfilter : (ls.filter (· ≠ [])).filterMap assignment = ls.filterMap assignment := by
    rw [List.filterMap_filter]
    refine List.filterMap_congr fun line _ => ?_
    cases line <;> rfl
  rw [Entry.loaded, valueOf, hfilter, Entry.loaded, valueOf]

lemma assignedIn_filter : assignedIn params (ls.filter (· ≠ [])) = assignedIn params ls := by
  rw [assignedIn, List.filterMap_filter, assignedIn]
  congr 2
  refine List.filterMap_congr fun line _ => ?_
  cases line <;> rfl

/-- **The lines that are taken** are the first ones, with as many assignments as are looked for. -/
lemma upTo_append (params : List Param) (num : ℕ) (ls : List (List Char)) : ∃ rest,
    ls = upTo params num ls ++ rest ∧
    (assignedIn params (upTo params num ls)).length = min num (assignedIn params ls).length := by
  induction ls generalizing num with
  | nil => exact ⟨[], by simp, by simp [assignedIn]⟩
  | cons line ls ih =>
      rcases eq_or_ne num 0 with rfl | hzero
      · exact ⟨line :: ls, by simp, by simp [assignedIn]⟩
      · obtain ⟨rest, hrest, hlen⟩ := ih (num - if Known params line then 1 else 0)
        rw [upTo_cons hzero]
        refine ⟨rest, by rw [List.cons_append, ← hrest], ?_⟩
        rw [length_assignedIn_cons, length_assignedIn_cons, hlen]
        split_ifs <;> omega

/-- **When enough is looked for** the parameter has the value that the lines have for it. -/
lemma loadLines_upTo (honce : (assignedIn params ls).Nodup) (he : e.paramName ∈ names params)
    (hnum : (assignedIn params ls).length ≤ num) :
    e.loadLines atof (upTo params num ls) = e.loaded atof ls := by
  obtain ⟨rest, hrest, hlen⟩ := upTo_append params num ls
  have hnone : assignedIn params rest = [] := by
    have htotal := congrArg (fun l => (assignedIn params l).length) hrest
    simp only [assignedIn_append, List.length_append] at htotal
    exact List.eq_nil_of_length_eq_zero (by omega)
  have hname : (e.loadLines atof (upTo params num ls)).paramName = e.paramName :=
    congrArg Param.paramName toParam_loadLines
  have hnot : (e.loadLines atof (upTo params num ls)).paramName ∉
      (rest.filterMap assignment).map Prod.fst := by
    rw [hname, ← mem_assignedIn he, hnone]
    exact List.not_mem_nil
  rw [← loadLines_eq (count_assigned_le honce he), ← loadLines_of_not_mem atof hnot]
  conv_rhs => rw [hrest]
  rw [Entry.loadLines, Entry.loadLines, Entry.loadLines, List.foldl_append]

end Fill

/-! ## When both are right -/

section Right

variable {atof : List Char → BitVec 64} {params : List Param} {text : List Char}
  {table : List Entry}

lemma mem_names {e : Entry} (hparams : table.map Entry.toParam = params) (he : e ∈ table) :
    e.paramName ∈ names params := by
  rw [names, ← hparams, List.map_map]
  exact List.mem_map_of_mem he

/-- There are no more assignments than parameters. -/
lemma Regular.length_assignedIn_le (hreg : Regular params text) :
    (assignedIn params (lines text)).length ≤ params.length := by
  have hsub : assignedIn params (lines text) ⊆ names params := fun name h =>
    of_decide_eq_true (List.mem_filter.mp h).2
  have hlen := (hreg.once.subperm hsub).length_le
  rwa [names, List.length_map] at hlen

/-- **The file is always loaded.** -/
theorem Regular.read (hreg : Regular params text) (hparams : table.map Entry.toParam = params) :
    (locReadConfR atof text table).1 = table.map fun e => e.clear.loaded atof (lines text) := by
  have hclear : (table.map Entry.clear).map Entry.toParam = params := by
    rw [List.map_map, ← hparams]
    rfl
  have hlen : table.length = params.length := by rw [← hparams, List.length_map]
  rw [locReadConfR, readLoop_eq hreg.nodup (hlen ▸ hreg.length_lt) hclear hreg.short
    hreg.admissible, List.map_map]
  exact List.map_congr_left fun e he => loadLines_upTo hreg.once (mem_names (e := e) hparams he)
    (hlen ▸ hreg.length_assignedIn_le)

/-- What `loc_update_conf` does to a text and a table that are not empty. -/
lemma Regular.update_eq (hreg : Regular params text) (hparams : table.map Entry.toParam = params)
    (htext : text ≠ []) (hne : params ≠ []) : locUpdateConf atof text table =
      (table.map (Entry.loadLines atof
          (upTo params (params.length - 1) ((lines text).filter (· ≠ [])))),
        ((upTo params (params.length - 1) ((lines text).filter (· ≠ []))).length : ℤ)) := by
  have hlen : table.length = params.length := by rw [← hparams, List.length_map]
  have htable : table ≠ [] := by
    rintro rfl
    exact hne hparams.symm
  have hlt := hreg.length_lt
  rw [locUpdateConf, if_neg (not_or.mpr ⟨htext, htable⟩), hlen,
    updateLoop_eq hreg.nodup (by omega) hparams
      (fun line h => hreg.admissible line (List.mem_filter.mp h).1), zero_add]

/-- A place can hold something else. -/
lemma exists_value_ne (t : ParamType) (v : t.Value) : ∃ w : t.Value, w ≠ v := by
  cases t with
  | s => exact @exists_ne (List Char) _ v
  | n => exact @exists_ne ℤ _ v
  | f => exact @exists_ne (BitVec 64) ⟨0, 1, by decide⟩ v

/-- A table whose values are not the given one. -/
noncomputable def other (params : List Param) (v : Param → ConfigValue) : List Entry :=
  params.map fun p => ⟨p, (exists_value_ne p.paramType ((v p).convert p.paramType)).choose, false⟩

lemma toParam_other {v : Param → ConfigValue} : (other params v).map Entry.toParam = params := by
  rw [other, List.map_map]
  exact List.map_id _

/-- **If the buffer is always loaded then a parameter is left out.** -/
lemma Regular.lt_of_update (hreg : Regular params text) (htext : text ≠ []) (hne : params ≠ [])
    (h : ∀ table, table.map Entry.toParam = params →
      (locUpdateConf atof text table).1 = table.map fun e => e.loaded atof (lines text)) :
    (assignedIn params (lines text)).length < params.length := by
  by_contra hge
  have hpos := List.length_pos_of_ne_nil hne
  obtain ⟨rest, hrest, hlen⟩ := upTo_append params (params.length - 1)
    ((lines text).filter (· ≠ []))
  have hall : assignedIn params ((lines text).filter (· ≠ [])) =
      assignedIn params (upTo params (params.length - 1) ((lines text).filter (· ≠ []))) ++
        assignedIn params rest := by
    rw [← assignedIn_append, ← hrest]
  have honce : (assignedIn params ((lines text).filter (· ≠ []))).Nodup := by
    rw [assignedIn_filter]
    exact hreg.once
  -- some line that is not taken assigns a parameter
  obtain ⟨name, hname⟩ : ∃ name, name ∈ assignedIn params rest := by
    refine List.exists_mem_of_ne_nil _ fun hnil => ?_
    rw [assignedIn_filter, hnil, List.append_nil] at hall
    rw [assignedIn_filter, ← hall] at hlen
    omega
  have hnames : name ∈ names params := of_decide_eq_true (List.mem_filter.mp hname).2
  have hnot : name ∉ assignedIn params
      (upTo params (params.length - 1) ((lines text).filter (· ≠ []))) := by
    rw [hall] at honce
    exact fun hmem => List.disjoint_of_nodup_append honce hmem hname
  obtain ⟨p, hp, rfl⟩ := List.mem_map.mp hnames
  obtain ⟨value, hvalue⟩ : ∃ value, valueOf (lines text) p.paramName = some value := by
    have hmem : p.paramName ∈ assignedIn params (lines text) := by
      rw [← assignedIn_filter, hall]
      exact List.mem_append_right _ hname
    obtain ⟨q, hq, hqname⟩ := List.mem_map.mp ((mem_assignedIn hnames).mp hmem)
    refine Option.ne_none_iff_exists'.mp fun hnone => ?_
    have hne := List.lookup_eq_none_iff.mp hnone q hq
    simp [hqname] at hne
  have hupdate := h (other params fun p => configValue atof p.paramName value) toParam_other
  rw [hreg.update_eq toParam_other htext hne] at hupdate
  have hentry := List.map_inj_left.mp hupdate _ (List.mem_map_of_mem hp)
  have hassigned : p.paramName ∉ ((upTo params (params.length - 1)
      ((lines text).filter (· ≠ []))).filterMap assignment).map Prod.fst := by
    rwa [← mem_assignedIn hnames]
  rw [loadLines_of_not_mem atof hassigned, Entry.loaded] at hentry
  simp only [hvalue] at hentry
  have hval := eq_of_heq (Entry.mk.inj hentry).2.1
  exact (exists_value_ne p.paramType _).choose_spec hval

/-- The lines that are taken are as many as their assignments just if all of them assign. -/
lemma length_upTo_eq {ls : List (List Char)} :
    ls.length = (assignedIn params ls).length ↔ ∀ line ∈ ls, Known params line := by
  have hcount : (assignedIn params ls).length = ls.countP (Known params) := by
    induction ls with
    | nil => rfl
    | cons line ls ih =>
        rw [length_assignedIn_cons, ih, List.countP_cons, Nat.add_comm]
  rw [hcount, eq_comm, List.countP_eq_length]

end Right

variable {atof : List Char → BitVec 64} {params : List Param} {text : List Char}

/-- **Both functions load a text for a table**, whatever the table holds before, just if the text
leaves a parameter out and has nothing but assignments up to the last one that is looked for. -/
theorem load_right_iff (hreg : Regular params text) :
    (∀ table, table.map Entry.toParam = params → Right atof text table) ↔
      LeavesOneOut params text := by
  constructor
  · intro h
    have hdefault : (other params fun _ => configValue atof [] []).map Entry.toParam = params :=
      toParam_other
    have hreturns := (h _ hdefault).returns
    have htext : text ≠ [] := by
      intro hnil
      rw [locUpdateConf, if_pos (Or.inl hnil)] at hreturns
      omega
    have hne : params ≠ [] := by
      intro hnil
      rw [locUpdateConf, if_pos (Or.inr (List.map_eq_nil_iff.mp (hdefault.trans hnil)))]
        at hreturns
      omega
    have hlt := hreg.lt_of_update htext hne fun table ht => (h table ht).update
    refine ⟨htext, hne, hlt, length_upTo_eq.mp ?_⟩
    obtain ⟨rest, -, hlen⟩ := upTo_append params (params.length - 1)
      ((lines text).filter (· ≠ []))
    rw [hreg.update_eq hdefault htext hne, hdefault] at hreturns
    rw [hlen, assignedIn_filter, min_eq_right (by omega)]
    exact Int.ofNat_inj.mp hreturns
  · rintro ⟨htext, hne, hlt, hknown⟩ table hparams
    obtain ⟨rest, -, hlen⟩ := upTo_append params (params.length - 1)
      ((lines text).filter (· ≠ []))
    have hle : (assignedIn params ((lines text).filter (· ≠ []))).length ≤ params.length - 1 := by
      rw [assignedIn_filter]
      omega
    have honce : (assignedIn params ((lines text).filter (· ≠ []))).Nodup := by
      rw [assignedIn_filter]
      exact hreg.once
    refine ⟨hreg.read hparams, ?_, ?_⟩
    · rw [hreg.update_eq hparams htext hne]
      refine List.map_congr_left fun e he => ?_
      rw [loadLines_upTo honce (mem_names hparams he) hle, loaded_filter]
    · rw [hreg.update_eq hparams htext hne, hparams]
      rw [min_eq_right hle, assignedIn_filter] at hlen
      rw [← hlen]
      exact congrArg Nat.cast (length_upTo_eq.mpr hknown)

/-- A table of two numbers with flags. -/
def twoNumbers : List Entry :=
  [⟨⟨['A'], .n, true⟩, (0 : ℤ), false⟩, ⟨⟨['B'], .n, true⟩, (0 : ℤ), false⟩]

/-- One of two parameters is set, before a comment. -/
theorem first_of_two_is_set :
    Right (fun _ => 0) ['A', '=', '1', '\n', '#', 'B'] twoNumbers := by
  have hreg : Regular (twoNumbers.map Entry.toParam) ['A', '=', '1', '\n', '#', 'B'] := by
    refine ⟨by decide, by decide, by decide, fun line hline hnone hmem => ?_, by decide⟩
    have hsome : ∀ line ∈ lines ['A', '=', '1', '\n', '#', 'B'],
        '=' ∈ line → assignment line ≠ none := by
      decide
    exact absurd hnone (hsome line hline hmem)
  exact (load_right_iff hreg).mpr ⟨by decide, by decide, by decide, by decide⟩ _ rfl

/-- **The last of two parameters is not set.** -/
theorem second_of_two_is_not_set :
    Regular (twoNumbers.map Entry.toParam) ['A', '=', '1', '\n', 'B', '=', '2'] ∧
      ¬ Right (fun _ => 0) ['A', '=', '1', '\n', 'B', '=', '2'] twoNumbers := by
  have hreg : Regular (twoNumbers.map Entry.toParam) ['A', '=', '1', '\n', 'B', '=', '2'] := by
    refine ⟨by decide, by decide, by decide, fun line hline hnone => ?_, by decide⟩
    have hsome : ∀ line ∈ lines ['A', '=', '1', '\n', 'B', '=', '2'], assignment line ≠ none := by
      decide
    exact absurd hnone (hsome line hline)
  refine ⟨hreg, fun hright => ?_⟩
  have hupdate := hright.update
  rw [hreg.update_eq rfl (by decide) (by decide)] at hupdate
  have hsecond := List.map_inj_left.mp hupdate _ (List.mem_cons_of_mem _ List.mem_cons_self)
  exact absurd (congrArg Entry.paramSet hsecond) (by decide)

end Gps.LocCfg
