import Sagittarius.Domain.MarketData
import Sagittarius.Library.Resume

set_option autoImplicit false

namespace Sagittarius

structure RawKline where
  openTime : ℤ
  openPrice : String
  highPrice : String
  lowPrice : String
  closePrice : String
  volume : String
  closeTime : ℤ
  quoteAssetVolume : String
  numberOfTrades : ℤ
  takerBuyBaseAssetVolume : String
  takerBuyQuoteAssetVolume : String
deriving DecidableEq

-- `start_str`: a text as requested, a timestamp, or None.
inductive KlineStart
  | text (requested : String)
  | millis (time : ℤ)
  | earliest
deriving DecidableEq

-- What the third-party generator raises: a RequestException or anything else.
inductive SourceError
  | network (message : String)
  | other (message : String)
deriving DecidableEq

inductive DownloadError
  | cancelled
  | source (error : SourceError)
  | unparsable (error : PyError)
deriving DecidableEq

structure DownloadAttempt where
  klines : List RawKline
  failure : Option SourceError

inductive CancellationPoint
  | attempting
  | receiving (index : ℕ)
  | backingOff

-- The client, for one symbol, interval and end: what the n-th generator it is
-- asked for delivers, and what the caller's cancellation callback answers.
structure KlineSource where
  startTime : KlineStart → ℤ
  attempt : ℕ → KlineStart → DownloadAttempt
  cancellationRequested : ℕ → CancellationPoint → Bool := fun _ _ => false

def maxTransientRetries : ℕ := 3

def klineStreamChunkSize : ℕ := 1000

inductive DownloadEvent
  | yielded (kline : RawKline)
  | failed
deriving DecidableEq

-- What the consumer of the retrying generator sees, with the transient
-- failures between the klines.
structure RawDownload where
  events : List DownloadEvent
  stop : Option DownloadError
deriving DecidableEq

def DownloadEvent.kline : DownloadEvent → Option RawKline
  | .yielded kline => some kline
  | .failed => none

def RawDownload.yielded (download : RawDownload) : List RawKline := download.events.filterMap DownloadEvent.kline

def failuresSince (earlier : ℕ) (events : List DownloadEvent) : ℕ :=
  events.foldl (fun failures event =>
    match event with
    | .yielded _ => 0
    | .failed => failures + 1) earlier

structure DownloadPosition where
  start : KlineStart
  failures : ℕ

def deliver (cancelled : ℕ → Bool) : ℕ → DownloadPosition → List RawKline → List RawKline × DownloadPosition × Bool
  | _, position, [] => ([], position, false)
  | index, position, kline :: rest =>
      if cancelled index then ([], position, true)
      else
        let (later, reached, cut) :=
          deliver cancelled (index + 1) { start := .millis (kline.closeTime + 1), failures := 0 } rest
        (kline :: later, reached, cut)

-- A pass of the `while` loop returns or raises, or goes on with the next
-- attempt after a transient failure.
inductive DownloadAttemptResult
  | finished (download : RawDownload)
  | retried (events : List DownloadEvent) (position : DownloadPosition)

namespace KlineSource

def attemptOnce (source : KlineSource) (n : ℕ) (position : DownloadPosition) : DownloadAttemptResult :=
  if source.cancellationRequested n .attempting then .finished { events := [], stop := some .cancelled }
  else
    let made := source.attempt n position.start
    let (klines, reached, cut) :=
      deliver (fun index => source.cancellationRequested n (.receiving index)) 0 position made.klines
    let events := klines.map .yielded
    if cut then .finished { events, stop := some .cancelled }
    else
      match made.failure with
      | none => .finished { events, stop := none }
      | some (.other message) => .finished { events, stop := some (.source (.other message)) }
      | some (.network message) =>
          let failures := reached.failures + 1
          let events := events ++ [.failed]
          if maxTransientRetries < failures then .finished { events, stop := some (.source (.network message)) }
          else if source.cancellationRequested n .backingOff then .finished { events, stop := some .cancelled }
          else .retried events { reached with failures }

def generateRawKlinesWithRetry (source : KlineSource) : ℕ → ℕ → DownloadPosition → Option RawDownload
  | 0, _, _ => none
  | fuel + 1, n, position =>
      match source.attemptOnce n position with
      | .finished download => some download
      | .retried events next =>
          (source.generateRawKlinesWithRetry fuel (n + 1) next).map fun later =>
            { later with events := events ++ later.events }

end KlineSource

section Consumers

variable {α : Type} (float : String → Except PyError α) (symbol interval : String)

def toMarketData (kline : RawKline) : Except PyError (MarketData α) := do
  let openPrice ← float kline.openPrice
  let highPrice ← float kline.highPrice
  let lowPrice ← float kline.lowPrice
  let closePrice ← float kline.closePrice
  let volume ← float kline.volume
  let quoteAssetVolume ← float kline.quoteAssetVolume
  let takerBuyBaseAssetVolume ← float kline.takerBuyBaseAssetVolume
  let takerBuyQuoteAssetVolume ← float kline.takerBuyQuoteAssetVolume
  return {
    symbol, interval
    openTime := kline.openTime * 1000
    openPrice, highPrice, lowPrice, closePrice, volume
    closeTime := kline.closeTime * 1000
    quoteAssetVolume
    numberOfTrades := kline.numberOfTrades
    takerBuyBaseAssetVolume, takerBuyQuoteAssetVolume }

def mapToMarketData (klines : List RawKline) : Except PyError (List (MarketData α)) :=
  klines.mapM (toMarketData float symbol interval)

def RawDownload.fetch (download : RawDownload) : Except DownloadError (List RawKline) :=
  match download.stop with
  | some error => .error error
  | none => .ok download.yielded

def getHistoricalKlines (download : RawDownload) : Except DownloadError (List (MarketData α)) := do
  let klines ← download.fetch
  (mapToMarketData float symbol interval klines).mapError .unparsable

structure StreamedKlines (α : Type) where
  chunks : List (List (MarketData α))
  stop : Option DownloadError

def streamChunks (stop : Option DownloadError) : List RawKline → List RawKline → StreamedKlines α
  | buffer, [] =>
      match stop with
      | some error => { chunks := [], stop := some error }
      | none =>
          if buffer.isEmpty then { chunks := [], stop := none }
          else
            match mapToMarketData float symbol interval buffer with
            | .error error => { chunks := [], stop := some (.unparsable error) }
            | .ok chunk => { chunks := [chunk], stop := none }
  | buffer, kline :: rest =>
      let buffer := buffer ++ [kline]
      if klineStreamChunkSize ≤ buffer.length then
        match mapToMarketData float symbol interval buffer with
        | .error error => { chunks := [], stop := some (.unparsable error) }
        | .ok chunk =>
            let later := streamChunks stop [] rest
            { later with chunks := chunk :: later.chunks }
      else streamChunks stop buffer rest

def streamHistoricalKlines (download : RawDownload) : StreamedKlines α :=
  streamChunks float symbol interval download.stop [] download.yielded

end Consumers

theorem failures_since_append (earlier : ℕ) (first second : List DownloadEvent) :
    failuresSince earlier (first ++ second) = failuresSince (failuresSince earlier first) second :=
  List.foldl_append

theorem failures_after_attempt (earlier : ℕ) (klines : List RawKline) :
    failuresSince earlier (klines.map .yielded ++ [.failed]) = (if klines = [] then earlier else 0) + 1 := by
  rcases List.eq_nil_or_concat' klines with rfl | ⟨read, last, rfl⟩
  · rfl
  · simp [failuresSince]

theorem yielded_events (klines : List RawKline) :
    (klines.map DownloadEvent.yielded).filterMap DownloadEvent.kline = klines := by
  rw [List.filterMap_map]
  exact List.filterMap_some

def resumeStart (start : KlineStart) (klines : List RawKline) : KlineStart :=
  klines.foldl (fun _ kline => .millis (kline.closeTime + 1)) start

theorem deliver_reaches (cancelled : ℕ → Bool) (index : ℕ) (position : DownloadPosition) (klines : List RawKline) :
    ∃ yielded after cut, deliver cancelled index position klines =
        (yielded, { start := resumeStart position.start yielded
                    failures := failuresSince position.failures (yielded.map .yielded) }, cut) ∧
      klines = yielded ++ after ∧ (cut = false → after = []) := by
  induction klines generalizing index position with
  | nil => exact ⟨[], [], false, rfl, rfl, fun _ => rfl⟩
  | cons kline rest ih =>
      rw [deliver]
      split_ifs
      · exact ⟨[], kline :: rest, true, rfl, rfl, nofun⟩
      · obtain ⟨yielded, after, cut, delivered, same, whole⟩ :=
          ih (index + 1) { start := .millis (kline.closeTime + 1), failures := 0 }
        refine ⟨kline :: yielded, after, cut, ?_, by rw [same, List.cons_append], whole⟩
        rw [delivered]
        rfl

namespace KlineSource

theorem attempt_cases (source : KlineSource) (n : ℕ) (position : DownloadPosition) :
    let made := source.attempt n position.start
    let failed := made.klines.map DownloadEvent.yielded ++ [.failed]
    (∃ download after, source.attemptOnce n position = .finished download ∧ made.klines = download.yielded ++ after ∧
      (download.stop = none → after = [] ∧ made.failure = none) ∧
      ∀ message, download.stop = some (.source (.network message)) →
        maxTransientRetries < failuresSince position.failures download.events) ∨
    (source.attemptOnce n position =
      .retried failed { start := resumeStart position.start made.klines, failures := failuresSince position.failures failed } ∧
      failuresSince position.failures failed ≤ maxTransientRetries) := by
  intro made failed
  obtain ⟨yielded, after, cut, delivered, split, whole⟩ := deliver_reaches
    (fun index => source.cancellationRequested n (.receiving index)) 0 position made.klines
  have endsThere : ∀ stop : Option DownloadError, ({ events := yielded.map .yielded, stop } : RawDownload).yielded = yielded :=
    fun _ => yielded_events yielded
  have endsFailed : ∀ stop : Option DownloadError,
      ({ events := yielded.map .yielded ++ [.failed], stop } : RawDownload).yielded = yielded := by
    intro stop
    rw [RawDownload.yielded, List.filterMap_append, yielded_events]
    exact List.append_nil yielded
  generalize result : source.attemptOnce n position = attempted
  by_cases refused : source.cancellationRequested n .attempting = true
  · rw [attemptOnce, if_pos refused] at result
    exact .inl ⟨_, made.klines, result.symm, rfl, nofun, nofun⟩
  · simp only [made] at delivered
    simp only [attemptOnce, if_neg refused, delivered] at result
    cases cut with
    | true =>
        rw [if_pos rfl] at result
        refine .inl ⟨_, after, result.symm, ?_, nofun, nofun⟩
        rw [endsThere, split]
    | false =>
        obtain rfl := whole rfl
        have all : made.klines = yielded := by simpa using split
        simp only [Bool.false_eq_true, if_false] at result
        cases failure : (source.attempt n position.start).failure with
        | none =>
            rw [failure] at result
            refine .inl ⟨_, [], result.symm, ?_, fun _ => ⟨rfl, rfl⟩, nofun⟩
            rw [endsThere, split]
        | some error =>
            rw [failure] at result
            cases error with
            | other message =>
                refine .inl ⟨_, [], result.symm, ?_, nofun, nofun⟩
                rw [endsThere, split]
            | network message =>
                have counted : failuresSince position.failures (yielded.map .yielded) + 1 =
                    failuresSince position.failures (yielded.map .yielded ++ [.failed]) :=
                  (failures_since_append _ _ [.failed]).symm
                simp only [counted] at result
                split_ifs at result with exhausted
                · refine .inl ⟨_, [], result.symm, ?_, nofun, fun _ _ => exhausted⟩
                  rw [endsFailed, split]
                · refine .inl ⟨_, [], result.symm, ?_, nofun, nofun⟩
                  rw [endsFailed, split]
                · have failedNow : failed = yielded.map .yielded ++ [.failed] := by simp only [failed, all]
                  rw [failedNow, all]
                  exact .inr ⟨result.symm, not_lt.mp exhausted⟩

theorem generate_finished (source : KlineSource) (fuel n : ℕ) (position : DownloadPosition) (download : RawDownload)
    (finished : source.attemptOnce n position = .finished download) :
    source.generateRawKlinesWithRetry (fuel + 1) n position = some download := by
  rw [generateRawKlinesWithRetry, finished]

theorem generate_retried (source : KlineSource) (fuel n : ℕ) (position next : DownloadPosition)
    (events : List DownloadEvent) (retried : source.attemptOnce n position = .retried events next) :
    source.generateRawKlinesWithRetry (fuel + 1) n position =
      (source.generateRawKlinesWithRetry fuel (n + 1) next).map fun later =>
        { later with events := events ++ later.events } := by
  rw [generateRawKlinesWithRetry, retried]

theorem generate_more_fuel (source : KlineSource) (fuel n : ℕ) (position : DownloadPosition) (download : RawDownload)
    (returned : source.generateRawKlinesWithRetry fuel n position = some download) :
    source.generateRawKlinesWithRetry (fuel + 1) n position = some download := by
  induction fuel generalizing n position download with
  | zero => cases returned
  | succ fuel ih =>
      cases result : source.attemptOnce n position with
      | finished made =>
          rw [source.generate_finished fuel n position made result] at returned
          rw [source.generate_finished (fuel + 1) n position made result, returned]
      | retried events next =>
          rw [source.generate_retried fuel n position next events result] at returned
          rw [source.generate_retried (fuel + 1) n position next events result]
          obtain ⟨later, continued, same⟩ := Option.map_eq_some_iff.mp returned
          exact Option.map_eq_some_iff.mpr ⟨later, ih _ _ _ continued, same⟩

-- The third-party generator, as it is documented: started at a time it
-- delivers the range's klines from there on, in order, until it ends or fails.
structure Honest (source : KlineSource) (range : List RawKline) : Prop where
  millis : ∀ time, source.startTime (.millis time) = time
  inOrder : Resuming.InOrder RawKline.openTime RawKline.closeTime range
  delivers : ∀ n start, (source.attempt n start).klines <+: Resuming.since RawKline.openTime range (source.startTime start)
  ends : ∀ n start, (source.attempt n start).failure = none →
    (source.attempt n start).klines = Resuming.since RawKline.openTime range (source.startTime start)

variable (source : KlineSource) (range : List RawKline)

def remaining (start : KlineStart) : List RawKline := Resuming.since RawKline.openTime range (source.startTime start)

theorem remaining_after (honest : source.Honest range) (n : ℕ) (start : KlineStart) :
    source.remaining range start = (source.attempt n start).klines ++
      source.remaining range (resumeStart start (source.attempt n start).klines) := by
  obtain ⟨rest, split⟩ := honest.delivers n start
  rcases List.eq_nil_or_concat' (source.attempt n start).klines with none | ⟨read, last, delivered⟩
  · rw [none]
    rfl
  · have reads : Resuming.since RawKline.openTime range (source.startTime start) = read ++ last :: rest := by
      rw [← split, delivered]
      simp
    have resumed := Resuming.since_resumes range read rest (source.startTime start) last honest.inOrder reads
    have startsAt : resumeStart start (source.attempt n start).klines = .millis (last.closeTime + 1) := by
      rw [delivered]
      simp [resumeStart]
    rw [startsAt, remaining, remaining, honest.millis, resumed]
    exact split.symm

theorem generate_prefix (honest : source.Honest range) (fuel n : ℕ) (position : DownloadPosition) (download : RawDownload)
    (returned : source.generateRawKlinesWithRetry fuel n position = some download) :
    download.yielded <+: source.remaining range position.start ∧
      (download.stop = none → download.yielded = source.remaining range position.start) ∧
      ∀ message, download.stop = some (.source (.network message)) →
        maxTransientRetries < failuresSince position.failures download.events := by
  induction fuel generalizing n position download with
  | zero => cases returned
  | succ fuel ih =>
      rcases source.attempt_cases n position with ⟨ended, after, finishes, split, completes, exhausted⟩ | ⟨retries, _⟩
      · rw [source.generate_finished fuel n position ended finishes] at returned
        cases returned
        refine ⟨?_, fun done => ?_, exhausted⟩
        · exact List.IsPrefix.trans ⟨after, split.symm⟩ (honest.delivers n position.start)
        · obtain ⟨rfl, noFailure⟩ := completes done
          rw [List.append_nil] at split
          rw [← split, honest.ends n position.start noFailure, remaining]
      · rw [source.generate_retried fuel n position _ _ retries] at returned
        obtain ⟨later, continued, rfl⟩ := Option.map_eq_some_iff.mp returned
        obtain ⟨isPrefix, whole, exhausted⟩ := ih _ _ later continued
        have yields : ({ later with events := (source.attempt n position.start).klines.map .yielded ++ [.failed] ++
            later.events } : RawDownload).yielded = (source.attempt n position.start).klines ++ later.yielded := by
          simp only [RawDownload.yielded, List.filterMap_append, yielded_events]
          simp [DownloadEvent.kline]
        rw [yields, source.remaining_after range honest n position.start]
        refine ⟨(List.prefix_append_right_inj _).mpr isPrefix, fun done => by rw [whole done], fun message stopped => ?_⟩
        rw [failures_since_append]
        exact exhausted message stopped

theorem generate_returns (honest : source.Honest range) (fuel n : ℕ) (position : DownloadPosition)
    (retriesLeft : position.failures ≤ maxTransientRetries)
    (enough : (maxTransientRetries + 1) * ((source.remaining range position.start).length + 1) - position.failures ≤ fuel) :
    ∃ download, source.generateRawKlinesWithRetry fuel n position = some download := by
  induction fuel generalizing n position with
  | zero =>
      have positive : maxTransientRetries + 1 ≤ (maxTransientRetries + 1) * ((source.remaining range position.start).length + 1) :=
        Nat.le_mul_of_pos_right _ (Nat.succ_pos _)
      omega
  | succ fuel ih =>
      rcases source.attempt_cases n position with ⟨ended, _, finishes, _⟩ | ⟨retries, left⟩
      · exact ⟨ended, source.generate_finished fuel n position ended finishes⟩
      · have fewer := congrArg List.length (source.remaining_after range honest n position.start)
        rw [List.length_append] at fewer
        have less : (maxTransientRetries + 1) * ((source.remaining range
              (resumeStart position.start (source.attempt n position.start).klines)).length + 1) -
            failuresSince position.failures ((source.attempt n position.start).klines.map .yielded ++ [.failed]) ≤ fuel := by
          rw [failures_after_attempt]
          simp only [maxTransientRetries] at retriesLeft enough ⊢
          split_ifs with none
          · rw [none, List.length_nil] at fewer
            rw [fewer] at enough
            rw [none]
            omega
          · have delivered := List.length_pos_iff.mpr none
            omega
        obtain ⟨later, continued⟩ := ih (n + 1) {
          start := resumeStart position.start (source.attempt n position.start).klines
          failures := failuresSince position.failures
            ((source.attempt n position.start).klines.map .yielded ++ [.failed]) } left less
        have resumed := source.generate_retried fuel n position _ _ retries
        rw [continued] at resumed
        exact ⟨_, resumed⟩

theorem generate_fuel_le (fuel more n : ℕ) (position : DownloadPosition) (download : RawDownload) (least : fuel ≤ more)
    (returned : source.generateRawKlinesWithRetry fuel n position = some download) :
    source.generateRawKlinesWithRetry more n position = some download := by
  induction least with
  | refl => exact returned
  | step _ ih => exact source.generate_more_fuel _ n position download ih

end KlineSource

section Consumers

variable {α : Type} (float : String → Except PyError α) (symbol interval : String)

theorem map_append_ok_iff (first second : List RawKline) (mapped : List (MarketData α)) :
    mapToMarketData float symbol interval (first ++ second) = .ok mapped ↔
      ∃ before after, mapToMarketData float symbol interval first = .ok before ∧
        mapToMarketData float symbol interval second = .ok after ∧ mapped = before ++ after := by
  unfold mapToMarketData
  rw [List.mapM_append]
  cases first.mapM (toMarketData float symbol interval) with
  | error raised => simp [bind, Except.bind]
  | ok before =>
      cases second.mapM (toMarketData float symbol interval) with
      | error raised => simp [bind, Except.bind]
      | ok after => simp [bind, Except.bind, pure, Except.pure, eq_comm]

-- The chunks hold what mapping the buffer and the klines to come gives, and
-- the stream completes when that succeeds and the download does.
theorem stream_concatenates (stop : Option DownloadError) (buffer rest : List RawKline) (mapped : List (MarketData α)) :
    (streamChunks float symbol interval stop buffer rest).stop = none ∧
        (streamChunks float symbol interval stop buffer rest).chunks.flatten = mapped ↔
      stop = none ∧ mapToMarketData float symbol interval (buffer ++ rest) = .ok mapped := by
  induction rest generalizing buffer mapped with
  | nil =>
      rw [List.append_nil]
      cases stop with
      | some error => simp [streamChunks]
      | none =>
          cases buffer with
          | nil => simp [streamChunks, mapToMarketData, pure, Except.pure]
          | cons kline more =>
              simp only [streamChunks, List.isEmpty_cons, Bool.false_eq_true, if_false]
              cases mapToMarketData float symbol interval (kline :: more) <;> simp
  | cons kline rest ih =>
      have shifted : buffer ++ kline :: rest = (buffer ++ [kline]) ++ rest := by simp
      rw [shifted]
      simp only [streamChunks]
      split_ifs with full
      · rw [map_append_ok_iff]
        cases mapToMarketData float symbol interval (buffer ++ [kline]) with
        | error raised => simp
        | ok chunk =>
            simp only [List.flatten_cons]
            constructor
            · rintro ⟨completed, rfl⟩
              obtain ⟨ended, after⟩ := (ih [] _).mp ⟨completed, rfl⟩
              exact ⟨ended, chunk, _, rfl, after, rfl⟩
            · rintro ⟨ended, before, after, same, later, rfl⟩
              cases same
              obtain ⟨completed, flattened⟩ := (ih [] after).mpr ⟨ended, later⟩
              exact ⟨completed, by rw [flattened]⟩
      · exact ih (buffer ++ [kline]) mapped

end Consumers

theorem historical_download_exactly_once {α : Type} (source : KlineSource) (range : List RawKline)
    (honest : source.Honest range) (start : KlineStart) (float : String → Except PyError α) (symbol interval : String) :
    let wanted := Resuming.since RawKline.openTime range (source.startTime start)
    ∃ download : RawDownload, (∀ fuel, (maxTransientRetries + 1) * (wanted.length + 1) ≤ fuel →
        source.generateRawKlinesWithRetry fuel 0 { start, failures := 0 } = some download) ∧
      (download.stop = none → download.yielded = wanted) ∧ download.yielded <+: wanted ∧
      (∀ message, download.stop = some (.source (.network message)) →
        maxTransientRetries < failuresSince 0 download.events) ∧
      ∀ klines, getHistoricalKlines float symbol interval download = .ok klines ↔
        (streamHistoricalKlines float symbol interval download).stop = none ∧
          (streamHistoricalKlines float symbol interval download).chunks.flatten = klines := by
  intro wanted
  obtain ⟨download, returned⟩ := source.generate_returns range honest
    ((maxTransientRetries + 1) * (wanted.length + 1)) 0 { start, failures := 0 } (Nat.zero_le _) (Nat.sub_le _ _)
  obtain ⟨isPrefix, whole, exhausted⟩ := source.generate_prefix range honest _ 0 _ download returned
  refine ⟨download, fun fuel enough => source.generate_fuel_le _ fuel 0 _ download enough returned, whole, isPrefix,
    exhausted, fun klines => ?_⟩
  rw [streamHistoricalKlines, stream_concatenates, List.nil_append, getHistoricalKlines, RawDownload.fetch]
  cases download.stop with
  | some error => simp [bind, Except.bind]
  | none =>
      simp only [bind, Except.bind, true_and]
      cases mapToMarketData float symbol interval download.yielded <;> simp [Except.mapError]

def minuteRow (minute : ℤ) : RawKline where
  openTime := minute * 60000
  openPrice := "1.0"
  highPrice := "1.0"
  lowPrice := "1.0"
  closePrice := "1.0"
  volume := "2.0"
  closeTime := minute * 60000 + 59999
  quoteAssetVolume := "2.0"
  numberOfTrades := 3
  takerBuyBaseAssetVolume := "1.0"
  takerBuyQuoteAssetVolume := "1.0"

def flakyRange : List RawKline := [minuteRow 0, minuteRow 1, minuteRow 2]

def flakySource : KlineSource where
  startTime start :=
    match start with
    | .millis time => time
    | _ => 0
  attempt n start :=
    let wanted := Resuming.since RawKline.openTime flakyRange (match start with | .millis time => time | _ => 0)
    if n = 0 then { klines := wanted.take 1, failure := some (.network "read timed out") }
    else if n = 1 then { klines := [], failure := some (.network "read timed out") }
    else { klines := wanted, failure := none }

theorem flaky_source_honest : flakySource.Honest flakyRange where
  millis _ := rfl
  inOrder := ⟨by decide, by decide⟩
  delivers n start := by
    simp only [flakySource]
    split_ifs
    · exact List.take_prefix _ _
    · exact List.nil_prefix
    · exact List.prefix_rfl
  ends n start := by
    simp only [flakySource]
    split_ifs
    · exact nofun
    · exact nofun
    · exact fun _ => rfl

theorem flaky_download_exactly_once :
    ∃ download, flakySource.generateRawKlinesWithRetry 16 0 { start := .text "01 Jan 1970 00:00:00", failures := 0 } =
        some download ∧ download.stop = none ∧ download.yielded = flakyRange := by
  obtain ⟨download, returned, whole, _⟩ := historical_download_exactly_once flakySource flakyRange flaky_source_honest
    (.text "01 Jan 1970 00:00:00") (fun _ => Except.ok (1 : ℚ)) "BTCUSDT" "1m"
  have enough := returned 16 (by decide)
  have stops : (flakySource.generateRawKlinesWithRetry 16 0 { start := .text "01 Jan 1970 00:00:00", failures := 0 }).map
      RawDownload.stop = some none := by decide +kernel
  rw [enough] at stops
  have completed : download.stop = none := by simpa using stops
  exact ⟨download, enough, completed, (whole completed).trans (by decide +kernel)⟩

end Sagittarius
