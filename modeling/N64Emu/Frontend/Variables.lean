import N64Emu.Frontend.CString

namespace N64Emu.Frontend

-- The core's variables

-- `struct retro_variable`: a key and a value, both C strings. An array of them ends at the
-- first NULL key; the list holds the variables before it.
structure RetroVariable where
  key : List UInt8
  value : List UInt8
  deriving DecidableEq, Repr

-- The default option `RETRO_ENVIRONMENT_SET_VARIABLES` stores for a value "description; a|b|c":
-- from after the ';' and the whitespace after it up to the first '|' of the value. A missing ';'
-- fails `SDL_assert`, and a first '|' before the start gives `malloc` and `memcpy` a negative
-- length: both are `none`.
def parseDefault (value : List UInt8) : Option (List UInt8) := do
  let v := cstr value
  let semicolon ← strchr ';'.toUInt8 v
  let start := semicolon + 1 + ((v.drop (semicolon + 1)).takeWhile isspace).length
  match strchr '|'.toUInt8 v with
  | some firstPipe =>
    if start ≤ firstPipe then some ((v.drop start).take (firstPipe - start)) else none
  | none => some (v.drop start)

-- `RETRO_ENVIRONMENT_SET_VARIABLES`: `g_vars` becomes the keys (`strdup`) with their default
-- options, in order.
def setVariables (vars : List RetroVariable) : Option (List RetroVariable) :=
  vars.mapM fun v => (parseDefault v.value).map fun d => ⟨cstr v.key, d⟩

-- `RETRO_ENVIRONMENT_GET_VARIABLE` with `g_vars` (`none` while it is NULL): whether it succeeds,
-- and `var` afterwards, its value that of the first stored variable with its key.
def getVariable (gVars : Option (List RetroVariable)) (var : RetroVariable) :
    Bool × RetroVariable :=
  match gVars with
  | none => (false, var)
  | some vs =>
    match vs.find? fun v => strcmp var.key v.key == 0 with
    | some v => (true, { var with value := v.value })
    | none => (true, var)

-- The default option as the specification words it: after the first ';' and the whitespace
-- after it, up to the next '|' or the end of the string.
def specDefault (value : List UInt8) : Option (List UInt8) :=
  let v := cstr value
  (strchr ';'.toUInt8 v).map fun semicolon =>
    ((v.drop (semicolon + 1)).dropWhile isspace).takeWhile (· ≠ '|'.toUInt8)

-- Where the description before the first ';' holds no '|', the code stores the specification's
-- default.
theorem parseDefault_eq_specDefault (value : List UInt8)
    (h : '|'.toUInt8 ∉ (cstr value).takeWhile (· ≠ ';'.toUInt8)) :
    parseDefault value = specDefault value := by
  have h0 := cstr_nul_free value
  unfold parseDefault specDefault
  dsimp only
  generalize cstr value = v at h h0
  by_cases hsc : ';'.toUInt8 ∈ v
  case neg => simp [strchr_eq_none hsc]
  obtain ⟨pre, post, rfl, hpre, htake⟩ := exists_split_first hsc
  rw [htake] at h
  have hpost : (pre ++ ';'.toUInt8 :: post).drop (pre.length + 1) = post := by simp
  rw [strchr_first hpre (fun x hx => h0 x (by simp [hx]))]
  simp only [Option.map_some', hpost, Option.bind_eq_bind, Option.some_bind]
  -- after the ';' come the whitespace `ws` and then `rest`
  have hsplit := (List.takeWhile_append_dropWhile isspace post).symm
  generalize hws : post.takeWhile isspace = ws at hsplit ⊢
  generalize post.dropWhile isspace = rest at hsplit ⊢
  subst hsplit
  have hstart : (pre ++ ';'.toUInt8 :: (ws ++ rest)).drop (pre.length + 1 + ws.length) = rest := by
    rw [← List.drop_drop, hpost, List.drop_left]
  -- the first '|' of the value is the first '|' of `rest`
  have hbefore : '|'.toUInt8 ∉ pre ++ ';'.toUInt8 :: ws := by
    simp only [List.mem_append, List.mem_cons, not_or]
    exact ⟨h, by decide, fun hw => absurd (List.mem_takeWhile_imp (hws ▸ hw)) (by decide)⟩
  have hv : pre ++ ';'.toUInt8 :: (ws ++ rest) = (pre ++ ';'.toUInt8 :: ws) ++ rest := by simp
  have hpipe : strchr '|'.toUInt8 (pre ++ ';'.toUInt8 :: (ws ++ rest)) =
      (strchr '|'.toUInt8 rest).map (· + (pre.length + 1 + ws.length)) := by
    rw [hv, strchr_append hbefore (fun x hx => h0 x (hv ▸ List.mem_append_left rest hx))]
    simp only [List.length_append, List.length_cons]
    congr 1; funext k; omega
  rw [hpipe, hstart]
  by_cases hp : '|'.toUInt8 ∈ rest
  · obtain ⟨pre2, post2, rfl, hpre2, htake2⟩ := exists_split_first hp
    rw [strchr_first hpre2 (fun x hx => h0 x (by simp [hx])), htake2]
    simp
  · rw [strchr_eq_none hp,
      List.takeWhile_eq_self_iff.2 fun x hx => by simpa using ne_of_mem_of_not_mem hx hp]
    rfl

theorem getVariable_cons (g : RetroVariable) (gs : List RetroVariable) (var : RetroVariable) :
    getVariable (some (g :: gs)) var =
      if strcmp var.key g.key = 0 then (true, { var with value := g.value })
      else getVariable (some gs) var := by
  by_cases h : strcmp var.key g.key = 0 <;> simp [getVariable, List.find?_cons, h]

-- Where every value has a ';' and no '|' before it, `SET_VARIABLES` succeeds, and
-- `GET_VARIABLE` then answers every key with the specification's default of the first variable
-- with that key.
theorem getVariable_setVariables (vars : List RetroVariable)
    (hvars : ∀ v ∈ vars, ';'.toUInt8 ∈ cstr v.value ∧
      '|'.toUInt8 ∉ (cstr v.value).takeWhile (· ≠ ';'.toUInt8)) :
    ∃ gVars, setVariables vars = some gVars ∧
      ∀ var w, vars.find? (fun u => strcmp var.key u.key == 0) = some w →
        ∃ d, specDefault w.value = some d ∧
          getVariable (some gVars) var = (true, { var with value := d }) := by
  induction vars with
  | nil => exact ⟨[], rfl, fun _ _ h => by simp at h⟩
  | cons u us ih =>
    obtain ⟨⟨hsemi, hpipe⟩, hus⟩ := List.forall_mem_cons.1 hvars
    obtain ⟨gs, hgs, hget⟩ := ih hus
    obtain ⟨d, hd⟩ : ∃ d, specDefault u.value = some d := by
      obtain ⟨k, hk⟩ := strchr_cstr_of_mem hsemi
      simp [specDefault, hk]
    refine ⟨⟨cstr u.key, d⟩ :: gs, ?_, fun var w hw => ?_⟩
    · unfold setVariables at hgs
      rw [setVariables, List.mapM_cons, parseDefault_eq_specDefault _ hpipe, hd, hgs]
      rfl
    rw [getVariable_cons, strcmp_cstr_right]
    by_cases hk : strcmp var.key u.key = 0
    · rw [List.find?_cons_of_pos _ (by simpa using hk), Option.some.injEq] at hw
      subst hw
      exact ⟨d, hd, if_pos hk⟩
    · rw [List.find?_cons_of_neg _ (by simpa using hk)] at hw
      rw [if_neg hk]
      exact hget var w hw

theorem getVariable_setVariables_one :
    let vars : List RetroVariable :=
      [⟨['k'.toUInt8], ['x'.toUInt8, ';'.toUInt8, ' '.toUInt8, 'a'.toUInt8, '|'.toUInt8, 'b'.toUInt8]⟩]
    ∃ gVars, setVariables vars = some gVars ∧
      ∀ var w, vars.find? (fun u => strcmp var.key u.key == 0) = some w →
        ∃ d, specDefault w.value = some d ∧
          getVariable (some gVars) var = (true, { var with value := d }) :=
  getVariable_setVariables _ (by decide)

-- A '|' in the description: the stored default should be "c", but the first '|' of the value
-- lies before the ';', and the copy length `first_pipe - semicolon` is negative.
theorem setVariables_pipe_in_description :
    let v : RetroVariable :=
      ⟨['k'.toUInt8], ['a'.toUInt8, '|'.toUInt8, 'b'.toUInt8, ';'.toUInt8, ' '.toUInt8,
        'c'.toUInt8, '|'.toUInt8, 'd'.toUInt8]⟩
    specDefault v.value = some ['c'.toUInt8] ∧ setVariables [v] = none := by
  decide

end N64Emu.Frontend
