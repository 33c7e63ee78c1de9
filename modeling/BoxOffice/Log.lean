/-! Lines of the log. -/
namespace BoxOffice

inductive LogLevel
  | info
  | warning
  | error
  deriving DecidableEq, Repr

def LogLevel.text : LogLevel → String
  | info => "INFO"
  | warning => "WARNING"
  | error => "ERROR"

inductive LogSource
  | events
  | registrations
  | payments
  | tickets
  | funds
  deriving DecidableEq, Repr

def LogSource.text : LogSource → String
  | events => "ticketing.services.event_service"
  | registrations => "ticketing.services.registration_service"
  | payments => "ticketing.services.payment_service"
  | tickets => "ticketing.services.ticket_service"
  | funds => "ticketing.services.funds"

structure LogLine where
  level : LogLevel
  source : LogSource
  text : String
  deriving DecidableEq, Repr

end BoxOffice
