/-
LamcoRdp/Config/EnvOverlay.lean

The loading of the configuration (`Config::load`, `infer_toml_value`, `config/mod.rs`): the
table of the file, the environment variables over it, and the file alone where these do not
fit.

Each variable is written into the table in the order in which the environment has them.  A
variable for a whole section puts a value in the place of its table, so that what comes for a
field of the section has no way left, and of two that differ in case the later one counts.
`load_order_iff` says exactly when the order does not matter.

The TOML parser, the `Deserialize` of the configuration and what the standard library knows of
letters and of floating point are parameters.
-/
import LamcoRdp.Config.Validate
import LamcoRdp.Lib.NestedMaps

namespace LamcoRdp

/-! ### TOML values -/

/-- `toml::Value`.  A table is what it has at each key, and a float its bits. -/
inductive TomlValue
  | string (s : String)
  | integer (i : Int64)
  | float (bits : UInt64)
  | boolean (b : Bool)
  | datetime (d : String)
  | array (items : List TomlValue)
  | table (entries : String → Option TomlValue)

/-- A table, by its keys. -/
abbrev TomlTable := String → Option TomlValue

/-- `as_table_mut`. -/
def TomlValue.asTable : TomlValue → Option TomlTable
  | .table entries => some entries
  | _ => none

/-- The tables in tables. -/
def tomlNesting : Nesting String TomlValue where
  entries := TomlValue.asTable
  node := .table
  entries_node := fun _ => rfl
  node_of_entries := by
    intro v m h
    cases v with
    | table entries =>
        obtain rfl := Option.some.inj h
        rfl
    | _ => cases h

/-- What other crates and the standard library make of texts and tables. -/
structure ConfigParsers extends Parsers where
  toml : String → Except String TomlTable
  lowercase : String → String
  parseF64 : String → Option UInt64

/-- `parse::<bool>`. -/
def parseBool (s : String) : Option Bool :=
  if s = "true" then some true else if s = "false" then some false else none

/-- `parse::<i64>`. -/
def parseI64 (s : String) : Option Int64 :=
  let negative := decide (s.toList.head? = some '-')
  let digits := if negative || s.toList.head? = some '+' then s.toList.tail else s.toList
  let magnitude : ℤ := Nat.ofDigitChars 10 digits 0
  let i := if negative then -magnitude else magnitude
  if digits ≠ [] ∧ digits.all Char.isDigit ∧
      Int64.minValue.toInt ≤ i ∧ i ≤ Int64.maxValue.toInt then
    some (.ofInt i)
  else none

/-- `infer_toml_value`. -/
def inferTomlValue (parsers : ConfigParsers) (s : String) : TomlValue :=
  match parseBool s with
  | some b => .boolean b
  | none =>
      match parseI64 s with
      | some i => .integer i
      | none =>
          match parsers.parseF64 s with
          | some bits => .float bits
          | none => .string s

/-- A variable gives no table. -/
theorem asTable_inferTomlValue (parsers : ConfigParsers) (s : String) :
    (inferTomlValue parsers s).asTable = none := by
  unfold inferTomlValue
  cases parseBool s with
  | some b => rfl
  | none =>
      cases parseI64 s with
      | some i => rfl
      | none => cases parsers.parseF64 s <;> rfl

/-! ### Variables -/

/-- `split("__")`, the part before the text being there already. -/
def splitFrom (part : List Char) : List Char → List (List Char)
  | '_' :: '_' :: text => part :: splitFrom [] text
  | c :: text => splitFrom (part ++ [c]) text
  | [] => [part]

/-- `strip_prefix("LAMCO_")`. -/
def stripLamco (key : String) : Option (List Char) :=
  if "LAMCO_".toList <+: key.toList then some (key.toList.drop 6) else none

/-- The parts of a variable's name, in lower case. -/
def configPath (parsers : ConfigParsers) (suffix : List Char) : List String :=
  (splitFrom [] suffix).map fun part => parsers.lowercase (String.ofList part)

/-- The walk along `dirs`, with `or_insert_with` where there is nothing, and the `insert` at
its end. -/
def insertAt (value : TomlValue) (field : String) : List String → TomlTable → Option TomlTable
  | [], current => some (Function.update current field (some value))
  | part :: dirs, current => do
      let inner ← ((current part).getD (.table fun _ => none)).asTable
      let inner ← insertAt value field dirs inner
      some (Function.update current part (some (.table inner)))

/-- One round of the loop over the variables: the table, and `env_overrides`. -/
def overlayVar (parsers : ConfigParsers) (state : TomlTable × List String)
    (var : String × String) : Except ConfigError (TomlTable × List String) :=
  let (table, envOverrides) := state
  let (key, value) := var
  match stripLamco key with
  | none => .ok state
  | some suffix =>
      let parts := configPath parsers suffix
      match parts.getLast? with
      | none => .ok state
      | some field =>
          match insertAt (inferTomlValue parsers value) field parts.dropLast table with
          | none => .error ["Config path conflict for env var " ++ key]
          | some table => .ok (table, envOverrides ++ [key])

/-- The loop over the variables. -/
def overlayEnv (parsers : ConfigParsers) (table : TomlTable) (vars : List (String × String)) :
    Except ConfigError (TomlTable × List String) :=
  vars.foldlM (overlayVar parsers) (table, [])

/-! ### Loading -/

/-- What there is at the path of the file. -/
inductive ConfigFile
  | content (text : String)
  | notFound
  | unreadable (cause : String)

/-- The table of the file. -/
def readTable (parsers : ConfigParsers) : ConfigFile → Except ConfigError TomlTable
  | .content text =>
      match parsers.toml text with
      | .ok table => .ok table
      | .error cause => .error ["Failed to parse config file", cause]
  | .notFound => .ok fun _ => none
  | .unreadable cause => .error ["Failed to read config file", cause]

/-- The configuration, with what `migrate` looks at besides. -/
structure VersionedConfig where
  config : Config
  enableNla : Bool
  configVersion : UInt32

/-- `Config::migrate`. -/
def VersionedConfig.migrate (c : VersionedConfig) : VersionedConfig where
  config :=
    if c.enableNla && c.config.security.securityMode = "auto" then
      { c.config with security := { c.config.security with securityMode := "hybrid" } }
    else c.config
  enableNla := c.enableNla
  configVersion := 1

/-- Where a configuration comes from. -/
inductive ConfigOrigin
  | fileAlone
  | overlaid (table : TomlTable)

variable (parsers : ConfigParsers) (tryInto : TomlTable → Except String VersionedConfig)

/-- The deserialization of the overlaid table, or of the file's. -/
def deserialize (base table : TomlTable) (envOverrides : List String) :
    Except ConfigError (ConfigOrigin × VersionedConfig) :=
  match tryInto table with
  | .ok config => .ok (.overlaid table, config)
  | .error e =>
      if envOverrides.isEmpty then .error ["Failed to deserialize config", e]
      else
        match tryInto base with
        | .ok config => .ok (.fileAlone, config)
        | .error e => .error ["Failed to deserialize config (without env overrides)", e]

/-- `Config::load`, with where the configuration comes from. -/
def load (file : ConfigFile) (vars : List (String × String)) :
    Except ConfigError (ConfigOrigin × VersionedConfig) := do
  let base ← readTable parsers file
  let (table, envOverrides) ← overlayEnv parsers base vars
  let (origin, config) ← deserialize tryInto base table envOverrides
  config.migrate.config.validate parsers.toParsers
  .ok (origin, config.migrate)

/-- How `load` ends: with an error, or with a configuration from somewhere. -/
def loadOutcome (file : ConfigFile) (vars : List (String × String)) :
    Option (ConfigOrigin × VersionedConfig) := (load parsers tryInto file vars).toOption

/-- What comes of a deserialized configuration. -/
def accept (origin : ConfigOrigin) (config : VersionedConfig) :
    Option (ConfigOrigin × VersionedConfig) :=
  match config.migrate.config.validate parsers.toParsers with
  | .ok () => some (origin, config.migrate)
  | .error _ => none

/-- What comes of an overlaid table. -/
def tableOutcome (base table : TomlTable) : Option (ConfigOrigin × VersionedConfig) :=
  match tryInto table with
  | .ok config => accept parsers (.overlaid table) config
  | .error _ =>
      match tryInto base with
      | .ok config => accept parsers .fileAlone config
      | .error _ => none

/-! ### The writes of the variables -/

/-- What the variables write, and where. -/
def assignments (vars : List (String × String)) : List (List String × TomlValue) :=
  vars.filterMap fun var => (stripLamco var.1).map fun suffix =>
    (configPath parsers suffix, inferTomlValue parsers var.2)

/-- When the order of the variables does not matter: one of them finds no way in the file, or
whatever table has, for each shortest path, the value of one of its variables comes to the
same, and that is an error if one path leads through another. -/
def OrderFree (base : TomlTable) (vars : List (String × String)) : Prop :=
  (∃ e ∈ assignments parsers vars, tomlNesting.Blocks (.table base) e.1) ∨
    ∃ outcome,
      (∀ c table, Nesting.Choice (assignments parsers vars) c →
        tomlNesting.Overlaid (.table base) c (.table table) →
        tableOutcome parsers tryInto base table = outcome) ∧
      ((∃ d ∈ assignments parsers vars, ∃ e ∈ assignments parsers vars, Nesting.Above d.1 e.1) →
        none = outcome)

variable {parsers tryInto} {vars : List (String × String)} {table base : TomlTable}
  {keys : List String}

theorem splitFrom_ne_nil (part text : List Char) : splitFrom part text ≠ [] := by
  fun_induction splitFrom part text with
  | case1 part text ih => exact List.cons_ne_nil _ _
  | case2 part c text hc ih => exact ih
  | case3 part => exact List.cons_ne_nil _ _

theorem configPath_ne_nil (suffix : List Char) : configPath parsers suffix ≠ [] :=
  mt List.map_eq_nil_iff.mp (splitFrom_ne_nil [] suffix)

/-- Where there is no table, there is no way on. -/
theorem put_of_asTable {u : TomlValue} (hu : u.asTable = none) {path : List String}
    (hpath : path ≠ []) (value : TomlValue) : tomlNesting.put path value u = none := by
  refine Nesting.put_eq_none_iff.mpr ⟨[], ⟨List.nil_prefix, hpath.symm⟩, u, rfl, hu⟩

/-- The walk writes at its path. -/
theorem insertAt_eq_put (value : TomlValue) (field : String) (dirs : List String)
    (current : TomlTable) :
    (insertAt value field dirs current).map TomlValue.table =
      tomlNesting.put (dirs ++ [field]) value (.table current) := by
  induction dirs generalizing current with
  | nil => rfl
  | cons part dirs ih =>
      have hput : tomlNesting.put (part :: dirs ++ [field]) value (.table current) =
          (tomlNesting.put (dirs ++ [field]) value
            ((current part).getD (.table fun _ => none))).map
              fun u => .table (Function.update current part (some u)) := rfl
      -- both go into the table that is there, or into a new one
      rw [hput, insertAt]
      generalize (current part).getD (.table fun _ => none) = u
      -- a value that is no table stops both
      cases hu : u.asTable with
      | none =>
          rw [put_of_asTable hu (List.append_ne_nil_of_right_ne_nil _ (List.cons_ne_nil _ _))]
          rfl
      | some inner =>
          obtain rfl := tomlNesting.node_of_entries hu
          have hinner : tomlNesting.put (dirs ++ [field]) value (tomlNesting.node inner) =
              (insertAt value field dirs inner).map TomlValue.table := (ih inner).symm
          rw [hinner]
          show ((insertAt value field dirs inner).bind _).map _ = _
          cases insertAt value field dirs inner with
          | none => rfl
          | some inner => rfl

/-- One round writes at the path of its variable. -/
theorem overlayVar_eq_put {var : String × String} {suffix : List Char}
    (hkey : stripLamco var.1 = some suffix) (state : TomlTable × List String) :
    (overlayVar parsers state var).toOption.map (fun s => TomlValue.table s.1) =
      tomlNesting.put (configPath parsers suffix) (inferTomlValue parsers var.2)
        (.table state.1) := by
  obtain ⟨dirs, field, hparts⟩ :=
    (List.eq_nil_or_concat (configPath parsers suffix)).resolve_left (configPath_ne_nil suffix)
  rw [List.concat_eq_append] at hparts
  simp only [overlayVar, hkey, hparts, List.getLast?_concat, List.dropLast_concat]
  rw [← insertAt_eq_put]
  cases insertAt (inferTomlValue parsers var.2) field dirs state.1 with
  | none => rfl
  | some table => rfl

/-- The tables that the loop comes to are those of the writes. -/
theorem overlay_eq_putAll (parsers : ConfigParsers) (vars : List (String × String))
    (state : TomlTable × List String) :
    (vars.foldlM (overlayVar parsers) state).toOption.map (fun s => TomlValue.table s.1) =
      tomlNesting.putAll (.table state.1) (assignments parsers vars) := by
  induction vars generalizing state with
  | nil => rfl
  | cons var vars ih =>
      rw [List.foldlM_cons, assignments, List.filterMap_cons]
      cases hkey : stripLamco var.1 with
      | none =>
          have hstep : overlayVar parsers state var = .ok state := by
            simp only [overlayVar, hkey]
          rw [hstep]
          exact ih state
      | some suffix =>
          rw [Option.map_some, Nesting.putAll_cons, ← overlayVar_eq_put hkey state]
          cases overlayVar parsers state var with
          | error e => rfl
          | ok state => exact ih state

theorem path_ne_nil {e : List String × TomlValue} (he : e ∈ assignments parsers vars) :
    e.1 ≠ [] := by
  obtain ⟨var, -, hvar⟩ := List.mem_filterMap.mp he
  obtain ⟨suffix, -, rfl⟩ := Option.map_eq_some_iff.mp hvar
  exact configPath_ne_nil suffix

theorem entries_of_mem {e : List String × TomlValue} (he : e ∈ assignments parsers vars) :
    tomlNesting.entries e.2 = none := by
  obtain ⟨var, -, hvar⟩ := List.mem_filterMap.mp he
  obtain ⟨suffix, -, rfl⟩ := Option.map_eq_some_iff.mp hvar
  exact asTable_inferTomlValue parsers var.2

/-- A table with values at paths is a table. -/
theorem exists_table {c : List (List String × TomlValue)} {w : TomlValue}
    (hc : ∀ e ∈ c, e.1 ≠ []) (h : tomlNesting.Overlaid (.table base) c w) :
    ∃ table, w = .table table := by
  cases c with
  | nil => exact ⟨base, Option.some.inj (h.apart [] (fun e he => absurd he List.not_mem_nil))⟩
  | cons e c =>
      obtain ⟨m, hm⟩ := h.above e List.mem_cons_self []
        ⟨List.nil_prefix, (hc e List.mem_cons_self).symm⟩
      exact ⟨m, Option.some.inj hm⟩

/-- One round leaves the table alone, or notes the variable. -/
theorem overlayVar_cases {state next : TomlTable × List String} {var : String × String}
    (h : overlayVar parsers state var = .ok next) : next = state ∨ next.2 ≠ [] := by
  simp only [overlayVar] at h
  split at h
  · exact .inl (Except.ok.inj h).symm
  · split at h
    · exact .inl (Except.ok.inj h).symm
    · split at h
      · cases h
      · obtain rfl := Except.ok.inj h
        exact .inr (List.append_ne_nil_of_right_ne_nil _ (List.cons_ne_nil _ _))

/-- Without a variable that counts, the table stays. -/
theorem overlay_without {state : TomlTable × List String}
    (h : vars.foldlM (overlayVar parsers) state = .ok (table, [])) :
    state = (table, []) := by
  induction vars generalizing state with
  | nil => exact Except.ok.inj h
  | cons var vars ih =>
      rw [List.foldlM_cons] at h
      obtain ⟨next, hnext, h⟩ := Checked.bind_eq_ok.mp h
      obtain rfl := ih h
      rcases overlayVar_cases hnext with heq | hkeys
      · exact heq.symm
      · exact absurd rfl hkeys

/-! ### The order -/

theorem toOption_accept (origin : ConfigOrigin) (config : VersionedConfig) :
    (do
      config.migrate.config.validate parsers.toParsers
      .ok (origin, config.migrate) : Except ConfigError _).toOption =
      accept parsers origin config := by
  unfold accept
  cases config.migrate.config.validate parsers.toParsers with
  | error e => rfl
  | ok u => rfl

/-- The rest of `load`, after the loop. -/
theorem deserialize_outcome (hkeys : keys = [] → table = base) :
    (do
      let (origin, config) ← deserialize tryInto base table keys
      config.migrate.config.validate parsers.toParsers
      .ok (origin, config.migrate) : Except ConfigError _).toOption =
      tableOutcome parsers tryInto base table := by
  unfold deserialize tableOutcome
  cases htable : tryInto table with
  | ok config => exact toOption_accept (.overlaid table) config
  | error e =>
      cases keys with
      | nil =>
          rw [hkeys rfl] at htable
          rw [htable]
          rfl
      | cons key keys =>
          cases tryInto base with
          | error e => rfl
          | ok config => exact toOption_accept .fileAlone config

/-- What `load` comes to, from the writes of the variables. -/
theorem loadOutcome_eq {file : ConfigFile} (hfile : readTable parsers file = .ok base)
    (vars : List (String × String)) :
    loadOutcome parsers tryInto file vars =
      ((tomlNesting.putAll (.table base) (assignments parsers vars)).bind TomlValue.asTable).bind
        (tableOutcome parsers tryInto base) := by
  rw [← overlay_eq_putAll parsers vars (base, []), loadOutcome, load, hfile]
  cases hover : vars.foldlM (overlayVar parsers) (base, []) with
  | error e =>
      show (do let _ ← overlayEnv parsers base vars; _ : Except ConfigError _).toOption = none
      rw [overlayEnv, hover]
      rfl
  | ok state =>
      obtain ⟨table, keys⟩ := state
      have hkeys : keys = [] → table = base := by
        intro hnil
        rw [hnil] at hover
        exact (congrArg Prod.fst (overlay_without hover)).symm
      show (do let _ ← overlayEnv parsers base vars; _ : Except ConfigError _).toOption = _
      rw [overlayEnv, hover]
      exact deserialize_outcome hkeys

/-- Every order of the writes is that of some order of the variables. -/
theorem exists_perm_filterMap {α β : Type} {f : α → Option β} {l : List α} {l' : List β}
    (h : l'.Perm (l.filterMap f)) : ∃ l₁ : List α, l₁.Perm l ∧ l₁.filterMap f = l' := by
  induction l' generalizing l with
  | nil => exact ⟨l, List.Perm.refl l, List.perm_nil.mp h.symm⟩
  | cons b l' ih =>
      obtain ⟨a, ha, hab⟩ := List.mem_filterMap.mp (h.subset List.mem_cons_self)
      obtain ⟨s, t, rfl⟩ := List.append_of_mem ha
      have hmiddle : (s ++ a :: t).Perm (a :: (s ++ t)) := List.perm_middle
      have hrest : (b :: l').Perm (b :: (s ++ t).filterMap f) := by
        have hcons : (a :: (s ++ t)).filterMap f = b :: (s ++ t).filterMap f :=
          List.filterMap_cons_some hab
        rw [← hcons]
        exact h.trans (hmiddle.filterMap f)
      obtain ⟨l₁, hl₁, hmap⟩ := ih hrest.cons_inv
      refine ⟨a :: l₁, (hl₁.cons a).trans hmiddle.symm, ?_⟩
      rw [List.filterMap_cons_some hab, hmap]

/-- `OrderFree`, as a fact about all orders of the writes. -/
theorem orderFree_iff_writes (base : TomlTable) (vars : List (String × String)) :
    OrderFree parsers tryInto base vars ↔
      ∀ l', l'.Perm (assignments parsers vars) →
        ((tomlNesting.putAll (.table base) l').bind TomlValue.asTable).bind
            (tableOutcome parsers tryInto base) =
          ((tomlNesting.putAll (.table base) (assignments parsers vars)).bind
            TomlValue.asTable).bind (tableOutcome parsers tryInto base) := by
  rw [Nesting.putAll_perm_iff
    (fun o => (o.bind TomlValue.asTable).bind (tableOutcome parsers tryInto base))
    (fun e he => entries_of_mem he), OrderFree]
  refine or_congr Iff.rfl (exists_congr fun outcome => and_congr ?_ Iff.rfl)
  constructor
  · intro h c w hchoice hover
    obtain ⟨table, rfl⟩ := exists_table (fun e he => path_ne_nil (hchoice.subset he)) hover
    exact h c table hchoice hover
  · intro h c table hchoice hover
    exact h c (.table table) hchoice hover

/-- Variables of which none leads to the path of another, unless with the same value for the
same path, may come in any order. -/
theorem orderFree_of_same (h : ∀ d ∈ assignments parsers vars, ∀ e ∈ assignments parsers vars,
    d.1 <+: e.1 → d = e) : OrderFree parsers tryInto base vars := by
  refine (orderFree_iff_writes base vars).mpr fun l' hperm => ?_
  rw [Nesting.putAll_perm (fun e he => entries_of_mem he) h hperm]

theorem orderFree_of_apart
    (h : (assignments parsers vars).Pairwise fun d e => Nesting.Apart d.1 e.1) :
    OrderFree parsers tryInto base vars :=
  orderFree_of_same fun _ hd _ he => Nesting.eq_of_isPrefix h hd he

/-- The end is the same for every order of the variables exactly if `OrderFree` holds, and
where no path leads through another or is another's too, the overlaid table is the file's with
the values of the variables at their paths. -/
theorem load_order_iff {file : ConfigFile} (hfile : readTable parsers file = .ok base)
    (vars : List (String × String)) :
    ((∀ vars', vars'.Perm vars →
        loadOutcome parsers tryInto file vars' = loadOutcome parsers tryInto file vars) ↔
      OrderFree parsers tryInto base vars) ∧
    ((assignments parsers vars).Pairwise (fun d e => Nesting.Apart d.1 e.1) →
      ∀ table keys, overlayEnv parsers base vars = .ok (table, keys) →
        tomlNesting.Overlaid (.table base) (assignments parsers vars) (.table table)) := by
  constructor
  · rw [orderFree_iff_writes]
    constructor
    · intro h l' hperm
      obtain ⟨vars', hvars', rfl⟩ := exists_perm_filterMap hperm
      have horder := h vars' hvars'
      rw [loadOutcome_eq hfile, loadOutcome_eq hfile] at horder
      exact horder
    · intro h vars' hperm
      rw [loadOutcome_eq hfile, loadOutcome_eq hfile]
      exact h _ (hperm.filterMap _)
  · intro hapart table keys hover
    refine Nesting.overlaid_putAll (fun e he => entries_of_mem he) hapart ?_
    rw [← overlay_eq_putAll parsers vars (base, [])]
    rw [overlayEnv] at hover
    rw [hover]
    rfl

/-- Parsers that know ASCII letters, and no floating point. -/
def asciiParsers : ConfigParsers where
  socketAddr := fun _ => none
  appId := fun _ => none
  passwordHash := fun _ => none
  isAlphanumeric := Char.isAlphanum
  toml := fun _ => .ok fun _ => none
  lowercase := fun s => String.ofList (s.toList.map Char.toLower)
  parseF64 := fun _ => none

/-- A configuration without a `server` section, read with its `portal.app_id`. -/
def readPortal (table : TomlTable) : Except String VersionedConfig :=
  match table "server" with
  | some _ => .error "invalid type: string, expected struct ServerConfig"
  | none =>
      match (table "portal").bind TomlValue.asTable with
      | none => .ok ⟨.default, false, 1⟩
      | some portal =>
          match portal "app_id" with
          | some (.string appId) =>
              .ok ⟨{ Config.default with portal := { appId := some appId } }, false, 1⟩
          | _ => .error "invalid type, expected a string"

/-- Two variables of different sections may come in either order. -/
theorem load_order_two :
    loadOutcome asciiParsers readPortal .notFound
        [("LAMCO_EGFX__ENABLED", "false"), ("LAMCO_PORTAL__APP_ID", "org.example.A")] =
      loadOutcome asciiParsers readPortal .notFound
        [("LAMCO_PORTAL__APP_ID", "org.example.A"), ("LAMCO_EGFX__ENABLED", "false")] :=
  (load_order_iff rfl _).1.mpr (orderFree_of_apart (by decide +kernel)) _ (.swap _ _ [])

/-- A variable for a section is an error before one for a field of it and makes `load` fall back
after it, and of two that differ in case the later one counts. -/
theorem load_order_matters :
    loadOutcome asciiParsers readPortal .notFound
        [("LAMCO_SERVER", "x"), ("LAMCO_SERVER__LISTEN_ADDR", "0.0.0.0:3390")] = none ∧
      (loadOutcome asciiParsers readPortal .notFound
        [("LAMCO_SERVER__LISTEN_ADDR", "0.0.0.0:3390"), ("LAMCO_SERVER", "x")]).isSome ∧
      (loadOutcome asciiParsers readPortal .notFound
          [("LAMCO_PORTAL__APP_ID", "org.example.A"),
            ("LAMCO_PORTAL__app_id", "org.example.B")]).map
        (fun loaded => loaded.2.config.portal.appId) = some (some "org.example.B") ∧
      (loadOutcome asciiParsers readPortal .notFound
          [("LAMCO_PORTAL__app_id", "org.example.B"),
            ("LAMCO_PORTAL__APP_ID", "org.example.A")]).map
        (fun loaded => loaded.2.config.portal.appId) = some (some "org.example.A") := by
  refine ⟨rfl, by decide +kernel, by decide +kernel, by decide +kernel⟩

end LamcoRdp
