import SuiteRunner.Database.Config
import SuiteRunner.Proofs.Outside.Results
import SuiteRunner.Proofs.Text.Cutting

/-!
  SuiteRunner.Proofs.Database.Settings
  ────────────────────────────────
  **DATABASES DO NOT SHARE SETTINGS.**

  The name of a variable is made of three parts, and the middle one, which is made of the name of a
  database, may hold underscores and the words of the last part.  But the words of the last part
  hold no underscore, so the last underscore of the name parts the two:

    • `variableName_inj` — the name of a variable tells the database and the setting,
    • `ofVariables_congr` — a configuration depends on the settings of its own database,
    • `ofVariables_renamed` — and on its name only where the name itself is kept,
    • `databases_apart` — **so databases with names that differ in capitals and underscores are
      apart, and all others are one.**
-/

namespace SuiteRunner

namespace DatabaseConfig

/-! ## §1. Names of variables. -/

/-- A variable is named by a prefix, the key of the database, an underscore and a suffix. -/
theorem toList_variableName (name suffix : String) :
    (variableName name suffix).toList
      = ("DB_".toList ++ (key name).toList) ++ '_' :: suffix.toList := by
  unfold variableName
  simp only [String.toList_append, List.append_assoc]
  rfl

theorem underscore_notMem : ∀ s ∈ suffixes, '_' ∉ s.toList := by decide

/-- **The name of a variable tells the database and the setting,** since the last underscore in it
stands between them. -/
theorem variableName_inj {a b s t : String} (hs : s ∈ suffixes) (ht : t ∈ suffixes)
    (h : variableName a s = variableName b t) : key a = key b ∧ s = t := by
  have hlist := congrArg String.toList h
  rw [toList_variableName, toList_variableName] at hlist
  obtain ⟨hfront, hsuffix⟩ :=
    Text.cut_at_last hlist (underscore_notMem s hs) (underscore_notMem t ht)
  exact ⟨String.toList_injective (List.append_cancel_left hfront),
    String.toList_injective hsuffix⟩

/-- **Databases with different keys have no variable in common.** -/
theorem variableNames_disjoint {a b : String} (h : key a ≠ key b) :
    ∀ s ∈ suffixes, variableName b s ∉ variableNames a := by
  intro s hs hmem
  obtain ⟨t, ht, heq⟩ := List.mem_map.mp hmem
  exact h (variableName_inj ht hs heq).1

/-! ## §2. What a configuration depends on. -/

/-- **A configuration depends on the settings of its own database.** -/
theorem ofVariables_congr {name : String} {env env' : Variables}
    (h : ∀ s ∈ suffixes, env (variableName name s) = env' (variableName name s)) :
    ofVariables name env = ofVariables name env' := by
  have hsetting : ∀ s ∈ suffixes, setting? name env s = setting? name env' s := by
    intro s hs
    unfold setting?
    rw [h s hs]
  have hkind : kindOf name env = kindOf name env' := by
    unfold kindOf
    rw [hsetting "TYPE" (by decide)]
  have hport : portOf name env = portOf name env' := by
    unfold portOf
    rw [hsetting "PORT" (by decide)]
  unfold ofVariables
  rw [hkind, hport, hsetting "HOST" (by decide), hsetting "USER" (by decide),
    hsetting "PASSWORD" (by decide), hsetting "NAME" (by decide),
    hsetting "CONNSTRING" (by decide)]

/-- A configuration is made of the kind, the port and the other settings. -/
theorem toOption_ofVariables (name : String) (env : Variables) :
    (ofVariables name env).toOption
      = (kindOf name env).toOption.bind fun kind => (portOf name env).toOption.map fun port =>
        { name := name, kind := kind, host := (setting? name env "HOST").getD "localhost",
          port := port, user := (setting? name env "USER").getD "",
          password := (setting? name env "PASSWORD").getD "",
          database := (setting? name env "NAME").getD "",
          connectionString := setting? name env "CONNSTRING" } := by
  unfold ofVariables
  cases kindOf name env with
  | error e => rfl
  | ok kind =>
    cases portOf name env with
    | error e => rfl
    | ok port => rfl

section

variable {a b : String} (h : key a = key b) (env : Variables)
include h

/-- A setting is found by the key alone. -/
theorem setting?_of_key : setting? b env = setting? a env := by
  funext suffix
  unfold setting? variableName
  rw [h]

/-- The reasons name the database, but there is one for both or for neither. -/
theorem kindOf_of_key : (kindOf b env).toOption = (kindOf a env).toOption := by
  unfold kindOf
  rw [setting?_of_key h]
  cases (setting? a env "TYPE").map LetterCase.toLower with
  | none => rfl
  | some t =>
    by_cases hmysql : t = "mysql"
    · simp only [if_pos hmysql]
    by_cases hodbc : t = "db2" ∨ t = "odbc"
    · simp only [if_neg hmysql, if_pos hodbc]
    · simp only [if_neg hmysql, if_neg hodbc]
      rfl

/-- The port is found by the key alone, if it is one. -/
theorem portOf_of_key : (portOf b env).toOption = (portOf a env).toOption := by
  unfold portOf
  rw [setting?_of_key h]
  cases setting? a env "PORT" with
  | none => rfl
  | some p =>
    cases hport : natOfText? 0xffff p with
    | none => simp only [hport]; rfl
    | some n => simp only [hport]

/-- **Databases of one key have one configuration,** apart from the name itself. -/
theorem ofVariables_renamed :
    (ofVariables b env).toOption = (ofVariables a env).toOption.map ({ · with name := b }) := by
  rw [toOption_ofVariables, toOption_ofVariables, kindOf_of_key h, portOf_of_key h,
    setting?_of_key h]
  cases (kindOf a env).toOption with
  | none => rfl
  | some kind =>
    cases (portOf a env).toOption with
    | none => rfl
    | some port => rfl

end

/-! ## §3. Two databases. -/

/-- **DATABASES ARE APART, OR ONE.**  If the names of two databases have different keys, nothing
that is done to the variables of the first has any influence on the configuration of the second, or
on the reason why there is none; not even if one key is the beginning of the other, or ends in a
word such as `NAME`.  If the keys are the same, both databases have a configuration or neither has,
and the two differ in the name and in nothing else. -/
theorem databases_apart (a b : String) :
    (key a ≠ key b → ∀ env env' : Variables, (∀ v, v ∉ variableNames a → env v = env' v) →
      ofVariables b env = ofVariables b env') ∧
    (key a = key b → ∀ env : Variables,
      (ofVariables b env).toOption = (ofVariables a env).toOption.map ({ · with name := b })) := by
  refine ⟨fun hkeys env env' hagree => ?_, fun hkeys env => ofVariables_renamed hkeys env⟩
  refine ofVariables_congr fun s hs => hagree _ ?_
  exact variableNames_disjoint hkeys s hs

/-- The settings of `shop` and of `shop-name`: the name of a variable of the first is the beginning
of names of the second. -/
def shops : Variables := fun v =>
  [("DB_SHOP_TYPE", "mysql"), ("DB_SHOP_NAME", "stock"), ("DB_SHOP_NAME_TYPE", "odbc"),
    ("DB_SHOP_NAME_PORT", "50001")].lookup v

/-- The variables without those of one database. -/
def forgetting (name : String) (env : Variables) : Variables := fun v =>
  if v ∈ variableNames name then none else env v

theorem databases_apart_shops :
    key "shop" ≠ key "shop-name" ∧
    ofVariables "shop-name" shops = ofVariables "shop-name" (forgetting "shop" shops) ∧
    key "shop-name" = key "SHOP_NAME" ∧
    (ofVariables "shop-name" shops).toOption.map port = some (some 50001) ∧
    (ofVariables "SHOP_NAME" shops).toOption
      = (ofVariables "shop-name" shops).toOption.map ({ · with name := "SHOP_NAME" }) := by
  have hapart : key "shop" ≠ key "shop-name" := by decide
  have hone : key "shop-name" = key "SHOP_NAME" := by decide
  have hkept : ∀ v, v ∉ variableNames "shop" → shops v = forgetting "shop" shops v :=
    fun v hv => (if_neg hv).symm
  exact ⟨hapart, (databases_apart "shop" "shop-name").1 hapart shops _ hkept, hone,
    by decide, (databases_apart "shop-name" "SHOP_NAME").2 hone shops⟩

end DatabaseConfig

end SuiteRunner
