import KeycloakExtensions.LastLoginHistory
import KeycloakExtensions.LastLoginUsers
import KeycloakExtensions.LibraryCalendar
import KeycloakExtensions.LibraryDecimal

/-! # The text of the last-login time

What `SONGIRISTARIHI` really holds is a text, `dd/MM/yyyy HH:mm:ss` of the local time where the
server runs. Here the machine of `LastLogin` writes texts; the one that keeps the second instead
is what the texts are read against. -/
namespace LastLoginText

open LibraryRuns LibraryCalendar LibraryDecimal LastLogin LastLoginSchedule LastLoginHistory
  LastLoginUsers

/-! ## The format -/

def ValidTime (hour minute second : ℕ) : Prop := hour < 24 ∧ minute < 60 ∧ second < 60

instance (hour minute second : ℕ) : Decidable (ValidTime hour minute second) :=
  inferInstanceAs (Decidable (_ ∧ _ ∧ _))

/-- Without its nanoseconds, which the pattern leaves out. -/
structure LocalDateTime where
  date : Date
  hour : ℕ
  minute : ℕ
  second : ℕ
  valid : ValidTime hour minute second
  deriving DecidableEq

/-- `yyyy` has four digits, and a sign where that is too few. -/
def yyyy (year : ℕ) : List Char :=
  if 9999 < year then '+' :: padded 4 year else padded 4 year

def format (t : LocalDateTime) : String :=
  String.ofList (joined (padded 2 t.date.day)
    [('/', padded 2 t.date.month), ('/', yyyy t.date.year), (' ', padded 2 t.hour),
      (':', padded 2 t.minute), (':', padded 2 t.second)])

def isLiteral (c : Char) : Bool := !(c.isDigit || c == '+')

/-- The reading of such a text. -/
def parse (text : String) : Option LocalDateTime :=
  match (text.toList.splitOnP isLiteral).map number with
  | [day, month, year, hour, minute, second] =>
    if h : ValidDate year month day ∧ ValidTime hour minute second then
      some ⟨⟨year, month, day, h.1⟩, hour, minute, second, h.2⟩
    else none
  | _ => none

theorem padded_not_literal {width n : ℕ} {c : Char} (h : c ∈ padded width n) :
    isLiteral c = false := by
  simp [isLiteral, isDigit_of_mem_padded h]

theorem yyyy_not_literal {year : ℕ} {c : Char} (h : c ∈ yyyy year) : isLiteral c = false := by
  rw [yyyy] at h
  split at h
  · rcases List.mem_cons.mp h with rfl | hdigit
    · decide
    · exact padded_not_literal hdigit
  · exact padded_not_literal h

theorem number_yyyy (year : ℕ) : number (yyyy year) = year := by
  rw [yyyy]
  split
  · rw [number_cons_sign (by decide), number_padded]
  · exact number_padded 4 year

theorem parse_format (t : LocalDateTime) : parse (format t) = some t := by
  have slash : isLiteral '/' = true := by decide
  have blank : isLiteral ' ' = true := by decide
  have colon : isLiteral ':' = true := by decide
  have hfields : (format t).toList.splitOnP isLiteral =
      [padded 2 t.date.day, padded 2 t.date.month, yyyy t.date.year, padded 2 t.hour,
        padded 2 t.minute, padded 2 t.second] := by
    rw [format, String.toList_ofList, splitOnP_joined fun _ hc => padded_not_literal hc]
    · rfl
    · intro next hnext
      simp only [List.mem_cons, List.not_mem_nil, or_false] at hnext
      rcases hnext with rfl | rfl | rfl | rfl | rfl
      · exact ⟨slash, fun _ hc => padded_not_literal hc⟩
      · exact ⟨slash, fun _ hc => yyyy_not_literal hc⟩
      · exact ⟨blank, fun _ hc => padded_not_literal hc⟩
      · exact ⟨colon, fun _ hc => padded_not_literal hc⟩
      · exact ⟨colon, fun _ hc => padded_not_literal hc⟩
  have hvalid : ValidDate t.date.year t.date.month t.date.day ∧
      ValidTime t.hour t.minute t.second := ⟨t.date.valid, t.valid⟩
  rw [parse, hfields]
  simp only [List.map_cons, List.map_nil, number_padded, number_yyyy]
  rw [dif_pos hvalid]

/-! ## Local seconds -/

/-- The local time of a second counted from the first day of the year 1. -/
def ofLocalSecond (n : ℕ) : LocalDateTime where
  date := ofDay (n / 86400)
  hour := n / 3600 % 24
  minute := n / 60 % 60
  second := n % 60
  valid := ⟨Nat.mod_lt _ (by decide), Nat.mod_lt _ (by decide), Nat.mod_lt _ (by decide)⟩

def LocalDateTime.toLocalSecond (t : LocalDateTime) : ℕ :=
  t.date.toDay * 86400 + t.hour * 3600 + t.minute * 60 + t.second

theorem toLocalSecond_ofLocalSecond (n : ℕ) : (ofLocalSecond n).toLocalSecond = n := by
  have hhour : n / 3600 = n / 60 / 60 := by rw [Nat.div_div_eq_div_mul]
  have hday : n / 86400 = n / 3600 / 24 := by rw [Nat.div_div_eq_div_mul]
  simp only [LocalDateTime.toLocalSecond, ofLocalSecond, toDay_ofDay]
  omega

/-- The offsets from universal time that the zone of the server has over the years. -/
structure ZoneRules where
  offset : ℕ → ℤ
  bounded : ∀ second, -64800 ≤ offset second ∧ offset second ≤ 64800

/-- A second of the epoch as a local one, counted from the first day of the year 1. -/
def ZoneRules.localSecond (zone : ZoneRules) (second : ℕ) : ℕ :=
  (62135596800 + second + zone.offset second).toNat

def ZoneRules.Fixed (zone : ZoneRules) : Prop :=
  ∀ second second', zone.offset second = zone.offset second'

theorem ZoneRules.Fixed.localSecond_inj {zone : ZoneRules} (fixed : zone.Fixed) {i j : ℕ} :
    zone.localSecond i = zone.localSecond j ↔ i = j := by
  have hbound := zone.bounded i
  have hoffset := fixed i j
  simp only [ZoneRules.localSecond]
  omega

/-- What a task writes that reads the clock at the moment, in nanoseconds of the epoch. -/
def dtf (zone : ZoneRules) (moment : ℕ) : String :=
  format (ofLocalSecond (zone.localSecond (second moment)))

theorem parse_dtf (zone : ZoneRules) (moment : ℕ) :
    (parse (dtf zone moment)).map LocalDateTime.toLocalSecond =
      some (zone.localSecond (second moment)) := by
  rw [dtf, parse_format, Option.map_some, toLocalSecond_ofLocalSecond]

/-- The text written at a moment reads back as its local second, and two moments write the same
text exactly when they fall into the same local second; where the offset never changes, exactly
when they fall into the same second. -/
theorem text_names_second (zone : ZoneRules) (moment moment' : ℕ) :
    (parse (dtf zone moment)).map LocalDateTime.toLocalSecond =
        some (zone.localSecond (second moment)) ∧
      (dtf zone moment = dtf zone moment' ↔
        zone.localSecond (second moment) = zone.localSecond (second moment')) ∧
      (zone.Fixed → (dtf zone moment = dtf zone moment' ↔
        dtfFormat moment = dtfFormat moment')) := by
  have hsame : dtf zone moment = dtf zone moment' ↔
      zone.localSecond (second moment) = zone.localSecond (second moment') := by
    constructor
    · intro htext
      have hread := parse_dtf zone moment
      rw [htext, parse_dtf zone moment'] at hread
      exact (Option.some.inj hread).symm
    · intro hsecond
      rw [dtf, dtf, hsecond]
  refine ⟨parse_dtf zone moment, hsame, fun fixed => ?_⟩
  rw [hsame, fixed.localSecond_inj, dtfFormat, dtfFormat]
  exact WithBot.coe_inj.symm

/-- Three hours ahead the whole year. -/
def istanbul : ZoneRules := ⟨fun _ => 10800, fun _ => by decide⟩

example : dtf istanbul 1700000000999999999 = "15/11/2023 01:13:20" := by decide

theorem istanbul_texts :
    dtf istanbul 1700000000000000000 = dtf istanbul 1700000000999999999 ↔
      dtfFormat 1700000000000000000 = dtfFormat 1700000000999999999 :=
  (text_names_second istanbul 1700000000000000000 1700000000999999999).2.2 fun _ _ => rfl

/-! ## The listener, writing texts -/

def listener (zone : ZoneRules) (user : String) : Machine (State Unit (WithBot String)) Action :=
  system (onlyUser (dtf zone) user)

def textOf (zone : ZoneRules) (stamp : Stamp) : WithBot String :=
  stamp.map fun second => format (ofLocalSecond (zone.localSecond second))

/-- The state with the text of each second in its place. -/
def inText (zone : ZoneRules) (s : UserState) : State Unit (WithBot String) :=
  project some (textOf zone) s

variable {zone : ZoneRules} {user : String}

theorem text_projection (zone : ZoneRules) (user : String) :
    Projection (onlyUser second user) (onlyUser (dtf zone) user) some (textOf zone) where
  getUserById id := by
    simp only [onlyUser, Option.bind_fun_some]
  isNull _ _ _ := rfl
  written _ _ moment _ _ := rfl
  foreign _ _ _ h := by cases h
  store carried stored := by
    by_cases hb : carried = ⊥
    · simp [onlyUser, textOf, hb]
    · simp [onlyUser, textOf, hb]

/-- Every run that writes texts shows the run of the machine that keeps seconds. -/
theorem run_inText (zone : ZoneRules) (user : String) (s : UserState) (as : List Action) :
    (listener zone user).run (inText zone s) as = inText zone ((machine user).run s as) := by
  induction as generalizing s with
  | nil => rfl
  | cons a as ih =>
    have hnext : (listener zone user).next (inText zone s) a =
        inText zone ((machine user).next s a) := next_of_total (text_projection zone user) s a
    exact (congrArg (fun t => (listener zone user).run t as) hnext).trans (ih _)

/-! ## What is stored -/

/-- Whatever the schedule and whatever text was stored before: the text stored afterwards is that
text, or the one of a moment between a LOGIN event of the user in the run and the present; and
from the texts of seconds the run shows the texts of the machine that keeps seconds. -/
theorem stored_text_is_a_login (zone : ZoneRules) (user : String)
    (t : State Unit (WithBot String)) (as : List Action) (h0 : Begins t) :
    (((listener zone user).run t as).stored = t.stored ∨
      FromLogin (dtf zone)
        ((listener zone user).collect (loginOf (onlyUser (dtf zone) user)) t as)
        ((listener zone user).run t as).now ((listener zone user).run t as).stored) ∧
    ∀ s, t = inText zone s →
      (listener zone user).run t as = inText zone ((machine user).run s as) := by
  refine ⟨stored_genuine (dtf zone) user h0 as, ?_⟩
  rintro s rfl
  exact run_inText zone user s as

def returningUser : State Unit (WithBot String) :=
  ⟨0, WithBot.some "01/01/2020 00:00:00", fun _ => ⟨⊥, false⟩, []⟩

theorem returning_user_stores_a_login :
    ((listener istanbul "u1").run returningUser crossedCommits).stored = returningUser.stored ∨
      FromLogin (dtf istanbul)
        ((listener istanbul "u1").collect (loginOf (onlyUser (dtf istanbul) "u1"))
          returningUser crossedCommits)
        ((listener istanbul "u1").run returningUser crossedCommits).now
        ((listener istanbul "u1").run returningUser crossedCommits).stored :=
  (stored_text_is_a_login istanbul "u1" returningUser crossedCommits ⟨fun _ => rfl, rfl⟩).1

end LastLoginText
