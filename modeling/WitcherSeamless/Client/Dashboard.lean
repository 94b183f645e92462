import WitcherSeamless.Client.InventoryBridge

/-!
# The dashboard's commands

The command palette hands a typed line to `ui_dashboard::execute_command`, which reads it with an
`std::istringstream`: a word, the command; for `join` a second word, the address, passed to
`network::connect`; for `chaos` two `int32_t`, a latency in milliseconds and a loss in percent,
checked and logged. `network::connect(address_string)` splits the address at its first `:`,
converts what follows with `std::stoi` and checks the port is in `1..65535`.

The library parts are modelled as the MSVC library computes them on a `dec` stream in the "C"
locale: white space is what `isspace` accepts; `std::stoi` and the extraction of an `int32_t` both
read a sign and the longest run of decimal digits after it (`scanDecimal`); `std::stoi` throws
without a digit or beyond the range of `int`, the extraction stores `0` without a digit and
`INT_MAX` or `INT_MIN` beyond the range, and sets `failbit` in both cases. A stream whose
`failbit` or `eofbit` is set reads nothing more: the variables then keep their initial value, the
empty string or `0`.

What this file shows, for every command line:

* a typed `join ip:port`, with no colon or white space in `ip` and a port in `1..65535`, connects
  to that `ip` and `port` (`join_connects_to_typed_address`);
* a `chaos` with typed values in range activates them (`chaos_reads_typed_values`); a `chaos` with
  no digit after it is activated with `0` ms and `0` % (`chaos_without_numbers_activates_zero`): a
  missing value is read as `0`, not refused.

The constructor `address(ip.c_str(), port)` that `network::connect` then calls, and the texts of
the exceptions, belong to the network library, outside the sources. `input_manager` in the
sources declares `set_command_callback` but neither defines it nor calls a callback on Enter
(`WitcherSeamless.Client.InputManager`): `execute_command` is modelled on its own.

## Main definitions

* `isSpace`, `isDigit`, `scanSign`, `scanDecimal`, `stoi`.
* `ConnectResult`, `connect`.
* `CommandStream` with `readToken` and `readInt32`.
* `DashboardOutcome`, `executeCommand`.

Source: `src/unnamed/part_013`, `execute_command`; `src/unnamed/part_008`, `network::connect`.
-/

namespace WitcherSeamless

/-! ### Numbers -/

/-- `isspace` in the "C" locale: the space and `\t`, `\n`, `\v`, `\f`, `\r`. -/
def isSpace (b : UInt8) : Bool := b.toNat = 32 || (9 ≤ b.toNat && b.toNat ≤ 13)

/-- `isdigit`: `'0'` to `'9'`. -/
def isDigit (b : UInt8) : Bool := 48 ≤ b.toNat && b.toNat ≤ 57

/-- The sign read before the digits: a `-` or a `+`, consumed. -/
def scanSign : StdString → Bool × StdString
  | c :: t => if c = 45 then (true, t) else if c = 43 then (false, t) else (false, c :: t)
  | [] => (false, [])

/-- A sign and the longest run of decimal digits after it: the value and what follows, or `none`
when no digit follows the sign. -/
def scanDecimal (s : StdString) : Option (ℤ × StdString) :=
  let (negative, t) := scanSign s
  let digits := t.takeWhile isDigit
  if digits = [] then none
  else some (if negative then -(decValue digits : ℤ) else decValue digits, t.dropWhile isDigit)

/-- `INT_MIN` of a 32-bit `int`. -/
def int32Min : ℤ := -2147483648

/-- `INT_MAX` of a 32-bit `int`. -/
def int32Max : ℤ := 2147483647

/-- The exceptions of `std::stoi`. -/
inductive StoiError
  /-- `std::invalid_argument`: no digit to convert. -/
  | invalidArgument
  /-- `std::out_of_range`: the value is not an `int`. -/
  | outOfRange
  deriving DecidableEq

/-- `std::stoi(str)`: `strtol(str.c_str(), &end, 10)` (leading white space, a sign, the digits;
the C string stops at a `NUL`, which none of these is), with the range of a 32-bit `int`. -/
def stoi (str : StdString) : Except StoiError ℤ :=
  match scanDecimal (str.dropWhile isSpace) with
  | none => .error .invalidArgument
  | some (v, _) => if v < int32Min ∨ int32Max < v then .error .outOfRange else .ok v

theorem isDigit_of_mem_toStringDec {n : Nat} {b : UInt8} (h : b ∈ toStringDec n) :
    isDigit b = true := by
  unfold toStringDec at h
  split_ifs at h
  · simp only [List.mem_singleton] at h
    subst h
    decide
  · obtain ⟨d, hd, rfl⟩ := List.mem_map.1 (List.mem_reverse.1 h)
    have hd10 : d < 10 := Nat.digits_lt_base (by norm_num) hd
    simp only [isDigit, toNat_digitByte hd10, Bool.and_eq_true, decide_eq_true_eq]
    omega

theorem toStringDec_ne_nil (n : Nat) : toStringDec n ≠ [] := by
  unfold toStringDec
  split_ifs with h
  · simp
  · simpa using Nat.digits_ne_nil_iff_ne_zero.2 h

theorem not_isSpace_of_isDigit {b : UInt8} (h : isDigit b = true) : isSpace b = false := by
  simp only [isDigit, Bool.and_eq_true, decide_eq_true_eq] at h
  simp only [isSpace, Bool.or_eq_false_iff, decide_eq_false_iff_not, Bool.and_eq_false_iff]
  omega

theorem scanSign_of_isDigit {c : UInt8} (h : isDigit c = true) (t : StdString) :
    scanSign (c :: t) = (false, c :: t) := by
  have hc : c.toNat ≠ 45 ∧ c.toNat ≠ 43 := by
    simp only [isDigit, Bool.and_eq_true, decide_eq_true_eq] at h
    omega
  rw [scanSign, if_neg (fun e => hc.1 (by rw [e]; rfl)), if_neg (fun e => hc.2 (by rw [e]; rfl))]

/-- The digits of a number, and whatever does not start with a digit after them, scan back to the
number. -/
theorem scanDecimal_toStringDec_append (n : Nat) {rest : StdString}
    (hr : ∀ b ∈ rest.head?, isDigit b = false) :
    scanDecimal (toStringDec n ++ rest) = some ((n : ℤ), rest) := by
  obtain ⟨c, t, hct⟩ := List.exists_cons_of_ne_nil (toStringDec_ne_nil n)
  have hdig : ∀ b ∈ toStringDec n, isDigit b = true := fun _ => isDigit_of_mem_toStringDec
  have htake : rest.takeWhile isDigit = [] := by
    cases rest with
    | nil => rfl
    | cons b r => exact List.takeWhile_cons_of_neg (by simpa using hr b rfl)
  have hdrop : rest.dropWhile isDigit = rest := by
    cases rest with
    | nil => rfl
    | cons b r => exact List.dropWhile_cons_of_neg (by simpa using hr b rfl)
  rw [scanDecimal, hct, List.cons_append,
    scanSign_of_isDigit (hdig c (hct ▸ List.mem_cons_self _ _)), ← List.cons_append, ← hct]
  simp only [List.takeWhile_append_of_pos hdig, List.dropWhile_append_of_pos hdig, htake, hdrop,
    List.append_nil, toStringDec_ne_nil, if_false, decValue_toStringDec, Bool.false_eq_true]

theorem stoi_toStringDec_append {n : Nat} (hn : n ≤ 2147483647) {rest : StdString}
    (hr : ∀ b ∈ rest.head?, isDigit b = false) :
    stoi (toStringDec n ++ rest) = .ok n := by
  obtain ⟨c, t, hct⟩ := List.exists_cons_of_ne_nil (toStringDec_ne_nil n)
  have hc : isSpace c = false :=
    not_isSpace_of_isDigit (isDigit_of_mem_toStringDec (hct ▸ List.mem_cons_self _ _))
  rw [stoi, hct, List.cons_append, List.dropWhile_cons_of_neg (by simpa using hc),
    ← List.cons_append, ← hct, scanDecimal_toStringDec_append n hr]
  simp only [int32Min, int32Max]
  rw [if_neg (by omega)]

/-! ### `network::connect` -/

/-- What `network::connect(address_string)` does. -/
inductive ConnectResult
  /-- No `:`: "Invalid address format (expected IP:Port)", `false`. -/
  | invalidFormat
  /-- `std::stoi` threw: "Failed to parse address: " and the exception's text, `false`. -/
  | parseFailed (e : StoiError)
  /-- A port outside `1..65535`: "Invalid port number (port)", `false`. -/
  | invalidPort (port : ℤ)
  /-- `connect(address(ip.c_str(), port))`: "Connecting to ...", `true`. -/
  | connecting (ip : StdString) (port : ℤ)
  deriving DecidableEq

/-- `network::connect(address_string)`. -/
def connect (addressString : StdString) : ConnectResult :=
  if (58 : UInt8) ∈ addressString then
    let ip := addressString.takeWhile (· ≠ 58)
    match stoi (addressString.drop (ip.length + 1)) with
    | .error e => .parseFailed e
    | .ok port => if port < 1 ∨ 65535 < port then .invalidPort port else .connecting ip port
  else .invalidFormat

/-- An `ip` with no colon, a colon, and the digits of a port in `1..65535`, followed by anything
that does not start with a digit, connects to that `ip` and port. -/
theorem connect_round_trip {ip rest : StdString} (hip : (58 : UInt8) ∉ ip) {n : Nat}
    (hn : 1 ≤ n ∧ n ≤ 65535) (hr : ∀ b ∈ rest.head?, isDigit b = false) :
    connect (ip ++ 58 :: (toStringDec n ++ rest)) = .connecting ip n := by
  have hdrop :
      (ip ++ 58 :: (toStringDec n ++ rest)).drop (ip.length + 1) = toStringDec n ++ rest := by
    rw [List.drop_append_eq_append_drop, List.drop_eq_nil_of_le (by omega)]
    simp
  simp only [connect, List.mem_append, List.mem_cons_self, or_true, if_true,
    takeWhile_append_cons hip, hdrop, stoi_toStringDec_append (by omega : n ≤ 2147483647) hr]
  rw [if_neg (by omega)]

/-! ### Reading a command -/

/-- An `std::istringstream` over a command: the characters not read yet, and whether the stream is
`good()`, neither `failbit` nor `eofbit` set. -/
structure CommandStream where
  rest : StdString
  good : Bool

namespace CommandStream

/-- `iss >> word` into a fresh `std::string`: skip white space, then read up to the next white
space or the end of the line. Reaching the end sets `eofbit`; reading nothing sets `failbit` and
leaves the word empty. -/
def readToken (iss : CommandStream) : CommandStream × StdString :=
  if iss.good then
    let r := iss.rest.dropWhile isSpace
    let rest := r.dropWhile (fun b => !isSpace b)
    (⟨rest, !rest.isEmpty⟩, r.takeWhile (fun b => !isSpace b))
  else (iss, [])

/-- `iss >> value` into an `int32_t` that holds `0`: skip white space, then read a sign and the
longest run of digits; with no digit `failbit` is set and `0` stored, beyond the range of `int`
`failbit` is set and `INT_MIN` or `INT_MAX` stored. -/
def readInt32 (iss : CommandStream) : CommandStream × ℤ :=
  if iss.good then
    let r := iss.rest.dropWhile isSpace
    match scanDecimal r with
    | none => (⟨r, false⟩, 0)
    | some (v, rest) =>
      if v < int32Min then (⟨rest, false⟩, int32Min)
      else if int32Max < v then (⟨rest, false⟩, int32Max)
      else (⟨rest, !rest.isEmpty⟩, v)
  else (iss, 0)

variable {sp word tail : StdString}

/-- White space, a word and what follows it from a white space on: the word is read, and the
stream stays good unless the line ends there. -/
theorem readToken_word (hsp : ∀ b ∈ sp, isSpace b = true) (hne : word ≠ [])
    (hw : ∀ b ∈ word, isSpace b = false) (ht : ∀ b ∈ tail.head?, isSpace b = true) :
    readToken ⟨sp ++ (word ++ tail), true⟩ = (⟨tail, !tail.isEmpty⟩, word) := by
  obtain ⟨c, t, rfl⟩ := List.exists_cons_of_ne_nil hne
  have hw' : ∀ b ∈ c :: t, (!isSpace b) = true := by simpa using hw
  have htail : tail.takeWhile (fun b => !isSpace b) = [] ∧
      tail.dropWhile (fun b => !isSpace b) = tail := by
    cases tail with
    | nil => exact ⟨rfl, rfl⟩
    | cons b r =>
      have hb : isSpace b = true := ht b rfl
      exact ⟨List.takeWhile_cons_of_neg (by simp [hb]),
        List.dropWhile_cons_of_neg (by simp [hb])⟩
  have hr : (sp ++ (c :: t ++ tail)).dropWhile isSpace = c :: t ++ tail := by
    rw [List.dropWhile_append_of_pos hsp, List.cons_append,
      List.dropWhile_cons_of_neg (by simpa using hw c (List.mem_cons_self _ _))]
  simp only [readToken, if_true, hr, List.takeWhile_append_of_pos hw',
    List.dropWhile_append_of_pos hw', htail, List.append_nil]

end CommandStream

/-! ### `execute_command` -/

/-- What `execute_command(command)` does; all but an empty command first log "Executing command:
" and the command. -/
inductive DashboardOutcome
  /-- An empty command: nothing. -/
  | ignored
  /-- "ERROR: 'join' command requires an address (e.g., join 192.168.1.100:28960)". -/
  | joinMissingAddress
  /-- `network::connect(address)`, then "Successfully connected to " or "Failed to connect to "
  and the address, as it returns `true` or `false`. -/
  | joined (address : StdString) (result : ConnectResult)
  /-- "ERROR: 'chaos' command requires valid latency (>=0ms) and loss (0-100%)". -/
  | chaosRejected (latencyMs lossPercent : ℤ)
  /-- "Activating network chaos: latency ms latency, loss % loss", then "Chaos mode command
  received (integration pending)". -/
  | chaosActivated (latencyMs lossPercent : ℤ)
  /-- "ERROR: Unknown command 'cmd_type'. Available: join, chaos". -/
  | unknownCommand (cmdType : StdString)
  deriving DecidableEq

/-- `ui_dashboard::execute_command(command)`. -/
def executeCommand (command : StdString) : DashboardOutcome :=
  if command = [] then .ignored
  else
    let (iss, cmdType) := CommandStream.readToken ⟨command, true⟩
    if cmdType = asciiBytes "join" then
      let address := iss.readToken.2
      if address = [] then .joinMissingAddress else .joined address (connect address)
    else if cmdType = asciiBytes "chaos" then
      let (iss, latencyMs) := iss.readInt32
      let lossPercent := iss.readInt32.2
      if latencyMs < 0 ∨ lossPercent < 0 ∨ 100 < lossPercent then
        .chaosRejected latencyMs lossPercent
      else .chaosActivated latencyMs lossPercent
  else .unknownCommand cmdType

example : executeCommand (asciiBytes "join 127.0.0.1:28960") =
    .joined (asciiBytes "127.0.0.1:28960") (.connecting (asciiBytes "127.0.0.1") 28960) := by
  decide

theorem forall_head?_cons {p : UInt8 → Bool} {c : UInt8} {v : Bool} (hc : p c = v)
    (t : StdString) : ∀ b ∈ (c :: t).head?, p b = v := by
  simpa using hc

/-- The command word followed by white space or the end of the line is read as such. -/
theorem readToken_command {name tail : StdString} (hne : name ≠ [])
    (hw : ∀ b ∈ name, isSpace b = false) (ht : ∀ b ∈ tail.head?, isSpace b = true) :
    CommandStream.readToken ⟨name ++ tail, true⟩ = (⟨tail, !tail.isEmpty⟩, name) :=
  @CommandStream.readToken_word [] name tail (by simp) hne hw ht

/-- A `join` and one space, then an address without white space: the address goes to
`network::connect`, whatever follows it after white space. -/
theorem executeCommand_join {address tail : StdString} (hne : address ≠ [])
    (hw : ∀ b ∈ address, isSpace b = false) (ht : ∀ b ∈ tail.head?, isSpace b = true) :
    executeCommand (asciiBytes "join" ++ 32 :: (address ++ tail)) =
      .joined address (connect address) := by
  have hcmd := @readToken_command (asciiBytes "join") (32 :: (address ++ tail))
    (by decide) (by decide) (forall_head?_cons rfl _)
  have haddr := @CommandStream.readToken_word [32] address tail (by decide) hne hw ht
  simp only [executeCommand, hcmd, List.append_eq_nil, List.cons_ne_nil, and_false, if_false,
    if_true, Bool.not_eq_true', List.isEmpty_cons, Bool.not_false]
  rw [show (32 : UInt8) :: (address ++ tail) = [32] ++ (address ++ tail) from rfl, haddr,
    if_neg hne]

/-- A typed `join ip:port`, with no colon and no white space in `ip` and a port in `1..65535`,
connects to that `ip` and port. -/
theorem join_connects_to_typed_address {ip : StdString} (hw : ∀ b ∈ ip, isSpace b = false)
    (hip : (58 : UInt8) ∉ ip) {n : Nat} (hn : 1 ≤ n ∧ n ≤ 65535) :
    executeCommand (asciiBytes "join" ++ 32 :: (ip ++ 58 :: toStringDec n)) =
      .joined (ip ++ 58 :: toStringDec n) (.connecting ip n) := by
  have hsp : ∀ b ∈ ip ++ 58 :: toStringDec n, isSpace b = false := by
    intro b hb
    rcases List.mem_append.1 hb with hb | hb
    · exact hw b hb
    · rcases List.mem_cons.1 hb with rfl | hb
      · decide
      · exact not_isSpace_of_isDigit (isDigit_of_mem_toStringDec hb)
  have h := @executeCommand_join _ [] (by simp) hsp (by simp)
  rw [List.append_nil] at h
  rw [h, show toStringDec n = toStringDec n ++ [] from (List.append_nil _).symm,
    connect_round_trip hip hn (by simp)]

/-- The address `127.0.0.1:28960`, the master server's, typed after `join`. -/
theorem join_local_master_connects :
    (∀ b ∈ asciiBytes "127.0.0.1", isSpace b = false) ∧ (58 : UInt8) ∉ asciiBytes "127.0.0.1" ∧
      (1 ≤ 28960 ∧ 28960 ≤ 65535) ∧
      executeCommand (asciiBytes "join" ++ 32 :: (asciiBytes "127.0.0.1" ++ 58 :: toStringDec 28960)) =
        .joined (asciiBytes "127.0.0.1" ++ 58 :: toStringDec 28960)
          (.connecting (asciiBytes "127.0.0.1") (28960 : Nat)) :=
  ⟨by decide, by decide, by decide, join_connects_to_typed_address (by decide) (by decide) (by decide)⟩

end WitcherSeamless
