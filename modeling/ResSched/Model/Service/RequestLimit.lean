import ResSched.Library.AssocMap
import ResSched.Model.Service.Report

/-! # The rate limiter of the requests of the service -/

namespace ResSched.RequestLimit

open Service (ErrCode)

def SINGLE_UID_REQUEST_LIMIT_COUNT : Int := 250
def ALL_UID_REQUEST_LIMIT_COUNT : Int := 650
def LIMIT_REQUEST_TIME : Int := 1000
def FOUR_HOUR_TIME : Int := 4 * 60 * 60 * 1000

/-- The fields of `ResSchedService` that the limiter reads and writes, and the
`REQUEST_LIMIT_COUNT` of each `SERVICE_REQUEST_LIMIT` event written so far. -/
structure Service where
  appRequestCountMap_ : AssocMap Int Int
  allRequestCount_ : Int
  nextCheckTime_ : Int
  isPrintLimitLog_ : Bool
  isReportBigData_ : Bool
  nextReportBigDataTime_ : Int
  bigDataReportCount_ : Int
  requestLimitEvents : List Int

def Service.start : Service where
  appRequestCountMap_ := ∅
  allRequestCount_ := 0
  nextCheckTime_ := 0
  isPrintLimitLog_ := true
  isReportBigData_ := false
  nextReportBigDataTime_ := 0
  bigDataReportCount_ := 0
  requestLimitEvents := []

def CheckAndUpdateLimitData (service : Service) (nowTime : Int) : Service :=
  if nowTime - service.nextCheckTime_ ≥ 0 then
    { service with
      nextCheckTime_ := nowTime + LIMIT_REQUEST_TIME
      appRequestCountMap_ := ∅
      allRequestCount_ := 0
      isPrintLimitLog_ := true }
  else service

/-- The service after the check and whether the request is refused. -/
def IsLimitRequest (service : Service) (nowTime uid : Int) : Service × Bool :=
  let service := CheckAndUpdateLimitData service nowTime
  if service.allRequestCount_ ≥ ALL_UID_REQUEST_LIMIT_COUNT then (service, true)
  else
    match service.appRequestCountMap_.lookup uid with
    | none =>
        ({ service with
            appRequestCountMap_ := service.appRequestCountMap_.insert uid 1
            allRequestCount_ := service.allRequestCount_ + 1 }, false)
    | some count =>
        if count ≥ SINGLE_UID_REQUEST_LIMIT_COUNT then (service, true)
        else
          ({ service with
              appRequestCountMap_ := service.appRequestCountMap_.insert uid (count + 1)
              allRequestCount_ := service.allRequestCount_ + 1 }, false)

def PrintLimitLog (service : Service) : Service :=
  if service.isPrintLimitLog_ then { service with isPrintLimitLog_ := false } else service

def ReportBigData (service : Service) (nowTime : Int) : Service :=
  if !service.isReportBigData_ then service
  else if nowTime < service.nextReportBigDataTime_ then service
  else
    { service with
      requestLimitEvents := service.requestLimitEvents ++ [service.bigDataReportCount_]
      isReportBigData_ := false
      bigDataReportCount_ := 0 }

def InreaseBigDataCount (service : Service) (nowTime : Int) : Service :=
  let service :=
    if !service.isReportBigData_ then
      { service with
        isReportBigData_ := true
        nextReportBigDataTime_ := nowTime + FOUR_HOUR_TIME }
    else service
  { service with bigDataReportCount_ := service.bigDataReportCount_ + 1 }

/-- The instants the clock is read at while one request is checked. -/
structure Clock where
  reportBigData : Int
  isLimitRequest : Int
  inreaseBigDataCount : Int

def RemoteRequestCheck (service : Service) (clock : Clock) (uid : Int) :
    Service × Except ErrCode Unit :=
  let service := ReportBigData service clock.reportBigData
  match IsLimitRequest service clock.isLimitRequest uid with
  | (service, true) =>
      (PrintLimitLog (InreaseBigDataCount service clock.inreaseBigDataCount),
        .error .RES_SCHED_REQUEST_FAIL)
  | (service, false) => (service, .ok ())

end ResSched.RequestLimit
