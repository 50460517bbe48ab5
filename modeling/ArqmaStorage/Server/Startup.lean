import ArqmaStorage.Basic

/-!
# Starting the server

`command_line_parser::parse_args` stores the command line into a `variables_map`, then the config
file (`--config-file`, or `storage-server.conf` inside the `--data-dir` the command line gave),
whose values fill only options the command line left out; `notify` copies the map into
`command_line_options`. Unless `--version` or `--help` was asked for, it defaults the daemon's RPC
port to 39994 on stagenet and requires the listen address and port. `main` then prints the usage
for `--help`, defaults the data directory under `$HOME`, creates it, checks the log level, prints
the version for `--version`, refuses to listen on `127.0.0.1` or on the daemon's RPC port, and
initialises libsodium before it fetches the keys and serves.

Parsing the command line and the config file is `boost::program_options`'s work: it is given here
as the map it yields (`option_values`), or the exception it throws. `main_serves_checked` says
what holds of the options `main` serves with, whatever the command line, the config file and the
filesystem.
-/

namespace ArqmaStorage

/-- A `variables_map` over the options of `parse_args`, as `po::store` fills it: `none` for an
option not given. A `bool_switch` is stored even when not given, with `false`. -/
structure option_values where
  data_dir : Option String
  config_file : Option String
  log_level : Option String
  arqmad_rpc_ip : Option String
  arqmad_rpc_port : Option UInt16
  stagenet : Bool
  force_start : Bool
  version : Bool
  help : Bool
  ip : Option String
  port : Option UInt16
  deriving Repr, DecidableEq

/-- `po::store` of the config file into `vm`: a value already stored from the command line stays,
and a switch the command line did not give takes the file's value. -/
def option_values.store (vm file : option_values) : option_values :=
  ⟨vm.data_dir <|> file.data_dir, vm.config_file <|> file.config_file,
    vm.log_level <|> file.log_level, vm.arqmad_rpc_ip <|> file.arqmad_rpc_ip,
    vm.arqmad_rpc_port <|> file.arqmad_rpc_port, vm.stagenet || file.stagenet,
    vm.force_start || file.force_start, vm.version || file.version, vm.help || file.help,
    vm.ip <|> file.ip, vm.port <|> file.port⟩

/-- `command_line_options`. `port` has no initialiser in `command_line.h`: it is `none` until
`notify` assigns it. -/
structure command_line_options where
  port : Option UInt16
  arqmad_rpc_ip : String
  arqmad_rpc_port : UInt16
  force_start : Bool
  print_version : Bool
  print_help : Bool
  stagenet : Bool
  ip : String
  log_level : String
  data_dir : String
  deriving Repr, DecidableEq

namespace command_line_options

/-- The member initialisers of `command_line.h`. -/
def default : command_line_options :=
  ⟨none, "127.0.0.1", 19994, false, false, false, false, "", "info", ""⟩

/-- `po::notify(vm)`: every option stored in `vm` is copied into its member. -/
def notify (vm : option_values) (o : command_line_options) : command_line_options :=
  ⟨vm.port <|> o.port, vm.arqmad_rpc_ip.getD o.arqmad_rpc_ip,
    vm.arqmad_rpc_port.getD o.arqmad_rpc_port, vm.force_start, vm.version, vm.help,
    vm.stagenet, vm.ip.getD o.ip, vm.log_level.getD o.log_level, vm.data_dir.getD o.data_dir⟩

end command_line_options

/-- `boost::filesystem::path(p) / s` for a relative component `s`, as a string: a separator is
added unless `p` is empty or already ends in one. -/
def path_append (p s : String) : String :=
  if p.isEmpty then s else if p.endsWith "/" then p ++ s else p ++ "/" ++ s

/-- The filesystem and the config file as `parse_args` finds them. -/
structure config_env where
  /-- `fs::exists`. -/
  path_exists : String → Bool
  /-- `po::parse_config_file` of a path: the options it holds, or the exception it throws. -/
  parse_config_file : String → Except String option_values

/-- The config file `parse_args` reads: `--config-file`, or `storage-server.conf` inside the
`--data-dir` of the command line, which is the working directory when none was given. -/
def config_file_path (data_dir : String) (vm : option_values) : String :=
  let config_file := vm.config_file.getD ""
  if config_file.isEmpty then path_append data_dir "storage-server.conf" else config_file

/-- The config-file part of `parse_args`: the config file is stored into `vm` when it exists; a
`--config-file` that does not exist throws. -/
def store_config_file (fs : config_env) (data_dir : String) (vm : option_values) :
    Except String option_values :=
  let config_file := config_file_path data_dir vm
  if fs.path_exists config_file then vm.store <$> fs.parse_config_file config_file
  else if vm.config_file.isSome then throw "path provided in --config-file does not exist"
  else pure vm

/-- `command_line_parser::parse_args`, from the `variables_map` of the command line. -/
def parse_args (fs : config_env) (vm : option_values) : Except String command_line_options := do
  let options := command_line_options.default.notify vm
  let vm ← store_config_file fs options.data_dir vm
  let options := options.notify vm
  if options.print_version || options.print_help then return options
  let options := if options.stagenet && vm.arqmad_rpc_port.isNone then
      { options with arqmad_rpc_port := 39994 } else options
  if vm.ip.isNone || vm.port.isNone then throw "Invalid option: address and/or port missing."
  return options

/-- The surroundings of `main`. -/
structure main_env extends config_env where
  /-- `get_home_dir()`: `$HOME`, when it is set and not empty. -/
  home : Option String
  /-- Whether `fs::create_directories` succeeds; it throws otherwise. -/
  create_directories : String → Bool
  /-- Whether `arqma::parse_log_level` accepts a level. -/
  parse_log_level : String → Bool
  /-- Whether `sodium_init()` returns 0. -/
  sodium_init : Bool

/-- `main`'s default for an empty `data_dir`: `~/.arqma/storage`, or `~/.arqma/stagenet/storage`
on stagenet, when there is a home directory. -/
def default_data_dir (home : Option String) (options : command_line_options) :
    command_line_options :=
  match options.data_dir.isEmpty, home with
  | true, some home =>
    let arqma := path_append home ".arqma"
    { options with data_dir := if options.stagenet then
        path_append (path_append arqma "stagenet") "storage" else path_append arqma "storage" }
  | _, _ => options

def EXIT_SUCCESS : Nat := 0
def EXIT_FAILURE : Nat := 1
def EXIT_INVALID_PORT : Nat := 2

/-- How `main` ends before the key fetch: an exit code, an exception that leaves `main`
(`std::terminate`), or the options it goes on to serve with. -/
inductive main_result where
  | exit (code : Nat)
  | terminate
  | serve (options : command_line_options)
  deriving Repr, DecidableEq

/-- `main`, up to the `try` block that fetches the keys and runs the server; `args` is the
command line as `po::store` reads it, or the exception it throws. -/
def main (env : main_env) (args : Except String option_values) : main_result :=
  match args >>= parse_args env.toconfig_env with
  | .error _ => .exit EXIT_FAILURE
  | .ok options =>
    if options.print_help then .exit EXIT_SUCCESS else
    let options := default_data_dir env.home options
    if !env.path_exists options.data_dir && !env.create_directories options.data_dir then .terminate
    else if !env.parse_log_level options.log_level then .exit EXIT_FAILURE
    else if options.print_version then .exit EXIT_SUCCESS
    else if options.ip = "127.0.0.1" then .exit EXIT_FAILURE
    else if options.port = some options.arqmad_rpc_port then .exit EXIT_INVALID_PORT
    else if !env.sodium_init then .exit EXIT_FAILURE
    else .serve options

theorem store_config_file_ok {fs : config_env} {d : String} {vm vm' : option_values}
    (h : store_config_file fs d vm = .ok vm') : vm' = vm ∨ ∃ file, vm' = vm.store file := by
  unfold store_config_file at h
  dsimp only at h
  split at h
  · cases hf : fs.parse_config_file (config_file_path d vm) <;>
      simp only [hf, Functor.map, Except.map, reduceCtorEq, Except.ok.injEq] at h
    exact .inr ⟨_, h.symm⟩
  · split at h
    · cases h
    · exact .inl (Except.ok.inj h).symm

theorem parse_args_ok {fs : config_env} {vm : option_values} {o : command_line_options}
    (h : parse_args fs vm = .ok o) (hv : o.print_version = false) (hh : o.print_help = false) :
    ∃ vm', store_config_file fs (command_line_options.default.notify vm).data_dir vm = .ok vm' ∧
      ∃ ip p, vm'.ip = some ip ∧ vm'.port = some p ∧ o.ip = ip ∧ o.port = some p ∧
        o.arqmad_rpc_port = vm'.arqmad_rpc_port.getD (if vm'.stagenet then 39994 else 19994) := by
  obtain ⟨vm', hstore, h⟩ := bind_eq_ok h
  have hport : vm'.arqmad_rpc_port = none → vm.arqmad_rpc_port = none := by
    rcases store_config_file_ok hstore with rfl | ⟨file, rfl⟩
    · exact id
    · cases h : vm.arqmad_rpc_port <;> simp [option_values.store, h]
  refine ⟨vm', hstore, ?_⟩
  simp only at h
  split_ifs at h with h1 hnone hs hs
  · cases h
    simp only [command_line_options.notify] at hv hh
    simp [command_line_options.notify, hv, hh] at h1
  · cases h
  · cases h
  all_goals
    cases h
    simp only [Bool.or_eq_true, Option.isNone_iff_eq_none, not_or] at hnone
    obtain ⟨ip, hip⟩ := Option.ne_none_iff_exists'.1 hnone.1
    obtain ⟨p, hp⟩ := Option.ne_none_iff_exists'.1 hnone.2
    refine ⟨ip, p, hip, hp, by simp [command_line_options.notify, hip],
      by simp [command_line_options.notify, hp], ?_⟩
  · simp only [command_line_options.notify, Bool.and_eq_true, Option.isNone_iff_eq_none] at hs
    simp [hs]
  · simp only [command_line_options.notify, Bool.and_eq_true, Option.isNone_iff_eq_none,
      not_and] at hs
    cases hq : vm'.arqmad_rpc_port
    · simp_all [command_line_options.notify, command_line_options.default]
    · simp [command_line_options.notify, hq]

theorem default_data_dir_eq (home : Option String) (o : command_line_options) :
    ∃ d, default_data_dir home o = { o with data_dir := d } := by
  unfold default_data_dir; split <;> exact ⟨_, rfl⟩

/-- **`main` serves only with checked options.** When `main` goes on to fetch the keys and serve,
the command line parsed, neither `--help` nor `--version` was asked for, the listen address and
port are the ones the command line or the config file gave, the address is not `127.0.0.1`, the
port is not the daemon's RPC port, which is the one given or else 39994 on stagenet and 19994 on
mainnet, the log level parses, and libsodium initialised. -/
theorem main_serves_checked {env : main_env} {args : Except String option_values}
    {o : command_line_options} (h : main env args = .serve o) :
    ∃ vm vm', args = .ok vm ∧
      store_config_file env.toconfig_env (command_line_options.default.notify vm).data_dir vm =
        .ok vm' ∧ o.print_help = false ∧ o.print_version = false ∧
      (∃ ip p, vm'.ip = some ip ∧ vm'.port = some p ∧ o.ip = ip ∧ o.port = some p ∧
        ip ≠ "127.0.0.1" ∧ p ≠ o.arqmad_rpc_port) ∧
      o.arqmad_rpc_port = vm'.arqmad_rpc_port.getD (if vm'.stagenet then 39994 else 19994) ∧
      env.parse_log_level o.log_level = true ∧ env.sodium_init = true := by
  unfold main at h
  split at h
  · cases h
  rename_i options hopt
  obtain ⟨vm, rfl, hparse⟩ := bind_eq_ok hopt
  obtain ⟨d, hd⟩ := default_data_dir_eq env.home options
  simp only [hd] at h
  simp only [ite_eq_iff, reduceCtorEq, and_false, false_or, main_result.serve.injEq] at h
  obtain ⟨h1, h2, h3, h4, h5, h6, h7, rfl⟩ := h
  simp only [Bool.not_eq_true, Bool.not_eq_false'] at h1 h3 h4 h7
  obtain ⟨vm', hstore, ip, p, hip, hp, hoip, hop, hdaemon⟩ := parse_args_ok hparse h4 h1
  exact ⟨vm, vm', rfl, hstore, h1, h4, ⟨ip, p, hip, hp, hoip, hop, hoip ▸ h5,
    fun hq => h6 (hq ▸ hop)⟩, hdaemon, h3, h7⟩

theorem stagenet_serves_beside_daemon :
    let env : main_env := ⟨⟨fun _ => true,
      fun _ => .ok ⟨none, none, none, none, none, false, false, false, false, none, none⟩⟩,
      some "/home/arqma", fun _ => true, fun _ => true, true⟩
    let args : Except String option_values :=
      .ok ⟨none, none, none, none, none, true, false, false, false, some "0.0.0.0", some 8080⟩
    ∃ o, main env args = .serve o ∧ o.arqmad_rpc_port = 39994 ∧
      ∃ p, o.port = some p ∧ p ≠ o.arqmad_rpc_port := by
  intro env args
  obtain ⟨o, h, hport⟩ : ∃ o, main env args = .serve o ∧ o.arqmad_rpc_port = 39994 :=
    ⟨_, rfl, rfl⟩
  obtain ⟨-, -, -, -, -, -, ⟨-, p, -, -, -, hp, -, hne⟩, -⟩ := main_serves_checked h
  exact ⟨o, h, hport, p, hp, hne⟩

end ArqmaStorage
