import FlutterApp.Library.PercentEncoding
import FlutterApp.Weather.WeatherHome

/-!
What the server reads from a request of getWeather. The city is what was typed in
WeatherSearch; it is put into the URL as it is.
-/

namespace FlutterApp
namespace WeatherHome

open PercentEncoding

/-- The characters that a URI may contain in its query, escapes apart. -/
def isQueryChar (c : Char) : Bool := c.isAlphanum || "-._~!$&'()*+,;=:@/?".toList.contains c

/-- What http.get sends. -/
def request (city : String) : Uri := Uri.parse isQueryChar (url city).toList

/-- The server reads the city, the application id and the units, and nothing else. -/
def ReadBack (city : String) : Prop :=
  parameters (request city).query =
    [(utf8 "q".toList, utf8 city.toList), (utf8 "appid".toList, utf8 Utils.appId.toList),
      (utf8 "units".toList, utf8 "metric".toList)]

theorem isQueryChar_of_hex {c : Char} (h : (hexValue c).isSome = true) :
    isQueryChar c = true := by
  have hlower : c.isLower = (decide (c.val ≥ 'a'.val) && decide (c.val ≤ 'z'.val)) := rfl
  have hupper : c.isUpper = decide (c.val ≥ 'A'.val ∧ c.val ≤ 'Z'.val) := rfl
  have hdigit : c.isDigit = (decide (c.val ≥ '0'.val) && decide (c.val ≤ '9'.val)) := rfl
  have halphanum : c.isAlphanum = (c.isUpper || c.isLower || c.isDigit) := rfl
  simp only [hexValue, Char.le_def, UInt32.le_iff_toNat_le] at h
  simp only [isQueryChar, halphanum, hlower, hupper, hdigit, Bool.or_eq_true, Bool.and_eq_true,
    decide_eq_true_eq, ge_iff_le, UInt32.le_iff_toNat_le]
  refine Or.inl ?_
  grind

theorem keepsDelimiters : KeepsDelimiters isQueryChar :=
  ⟨fun _ h => isQueryChar_of_hex h, by decide, by decide, by decide⟩

/-- What follows the city in the URL, the delimiter apart. -/
def laterQuery : List Char := ("appid=" ++ Utils.appId ++ "&units=metric").toList

theorem url_toList (city : String) : (url city).toList =
    "https://api.openweathermap.org/data/2.5/weather".toList ++
      '?' :: ("q".toList ++ '=' :: city.toList ++ '&' :: laterQuery) := by
  have hsplice : ∀ before appid units : String,
      (before ++ city ++ "&appid=" ++ appid ++ units).toList =
        before.toList ++ (city.toList ++ '&' :: ("appid=" ++ appid ++ units).toList) := by
    intro before appid units
    have hampersand : "&appid=".toList = '&' :: "appid=".toList := rfl
    simp only [String.toList_append, List.append_assoc, hampersand, List.cons_append]
  have hbefore : "https://api.openweathermap.org/data/2.5/weather?q=".toList =
      "https://api.openweathermap.org/data/2.5/weather".toList ++ '?' :: ("q".toList ++ ['=']) := by
    decide +kernel
  have hassoc : ∀ base name typed later : List Char,
      base ++ '?' :: (name ++ ['=']) ++ (typed ++ '&' :: later) =
        base ++ '?' :: (name ++ '=' :: typed ++ '&' :: later) := by
    simp
  -- rewriting would compare the literals of the goal with each other
  exact (hsplice _ _ _).trans ((congrArg (· ++ _) hbefore).trans (hassoc _ _ _ _))

theorem request_eq (city : String) :
    request city = ⟨"https://api.openweathermap.org/data/2.5/weather".toList,
      normalize isQueryChar
        (("q".toList ++ '=' :: city.toList ++ '&' :: laterQuery).takeWhile (· ≠ '#'))⟩ := by
  rw [request, url_toList, parse_append isQueryChar (by decide) (by decide)]

theorem readBack_iff (city : String) :
    ReadBack city ↔ '#' ∉ city.toList ∧ '&' ∉ city.toList ∧ Verbatim city.toList := by
  have hname : '=' ∉ "q".toList ∧ '&' ∉ "q".toList ∧ '#' ∉ "q".toList := by decide
  have hhash : '#' ∉ laterQuery := by decide
  have hlater : parameters (normalize isQueryChar laterQuery) =
      [(utf8 "appid".toList, utf8 Utils.appId.toList),
        (utf8 "units".toList, utf8 "metric".toList)] := by
    decide
  rw [← splice_iff keepsDelimiters hname hhash, hlater, ReadBack, request_eq]
  rfl

/-- What the server reads determines the city. -/
theorem city_of_request {city city' : String} (h : ReadBack city) (h' : ReadBack city')
    (heq : request city = request city') : city = city' := by
  rw [ReadBack, heq, h'] at h
  have hutf8 : utf8 city'.toList = utf8 city.toList := (Prod.mk.inj (List.cons.inj h).1).2
  exact String.toList_injective (utf8_injective hutf8).symm

/-- A city is read back exactly when it has no delimiter of the query and nothing in it means
anything but itself; the request then tells it from every other city that is read back. -/
theorem city_read_back_iff (city : String) :
    (ReadBack city ∧ ∀ city', ReadBack city' → request city = request city' → city = city') ↔
      '#' ∉ city.toList ∧ '&' ∉ city.toList ∧ Verbatim city.toList := by
  rw [← readBack_iff]
  exact and_iff_left_of_imp fun h _ h' heq => city_of_request h h' heq

/-- A city that sets the units, and two cities with one request. -/
theorem units_set_by_city : ¬ ReadBack "Brest&units=imperial" ∧
    request "San Jose" = request "San%20Jose" := by
  refine ⟨fun h => ((readBack_iff _).mp h).2.1 (by decide), ?_⟩
  rw [request_eq, request_eq]
  rfl

end WeatherHome

end FlutterApp
