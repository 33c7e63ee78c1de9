import BoxOffice.Part.Module

/-! The modules of the box office. -/
namespace BoxOffice.Part.Module

def catalogue : List Module :=
  [package "config" "settings" "" "",
    file "config.settings" "timedelta! Path:PosixPath"
      ("os BASE_DIR SECRET_KEY DEBUG ALLOWED_HOSTS INSTALLED_APPS DATABASES " ++
        "DEFAULT_AUTO_FIELD USE_TZ TIME_ZONE TICKETING LOG_LEVEL LOGGING"),
    package "ticketing" "apps conf domain migrations models services signals stores" "" "",
    file "ticketing.apps" "" "AppConfig TicketingConfig",
    file "ticketing.conf" "timedelta!"
      "Any settings import_string DEFAULTS ticketing_setting build_from_setting",
    package "ticketing.domain" "errors models state value_objects" "EventChanges TierChanges"
      ("EscrowConfig Event PaymentRecord Registration Ticket TicketTier TierSpec EventStatus " ++
        "PaymentStatus TicketStatus Capacity EventId Money __all__"),
    file "ticketing.domain.errors" ""
      ("Enum ErrorCategory EventErrorCode PaymentErrorCode TicketErrorCode _CATEGORIES " ++
        "DomainError EventError PaymentError TicketError EventNotFoundError " ++
        "PaymentNotFoundError TicketNotFoundError"),
    file "ticketing.domain.models" "dataclass:function Decimal! EventChanges TierChanges"
      ("replace datetime EventStatus PaymentStatus TicketStatus Capacity EventId Money " ++
        "TicketTier Event Registration EscrowConfig PaymentRecord Ticket TierSpec"),
    file "ticketing.domain.state" "EventStateMachine TicketStateMachine"
      "Enum EventStatus PaymentStatus TicketStatus",
    file "ticketing.domain.value_objects" "dataclass:function Decimal! InvalidOperation"
      "re Self EventId Money Capacity CENT _EVENT_ID_RE",
    package "ticketing.migrations" "0001_initial" "" "",
    file "ticketing.migrations.0001_initial" ""
      ("django migrations models Migration EVENT_STATUS_CHOICES PAYMENT_STATUS_CHOICES " ++
        "TICKET_STATUS_CHOICES"),
    file "ticketing.models"
      ("Event TicketTier Registration EscrowAccount Payment EventRevenue Ticket " ++
        "TicketHolding Counter") "models EventStatus PaymentStatus TicketStatus _choices",
    package "ticketing.services"
      "auth event_service funds payment_service registration_service ticket_service"
      "dataclass:function build_services"
      ("build_from_setting IdentityVerifier EventService FundsTransfer PaymentService " ++
        "RegistrationService TicketService TicketingServices __all__"),
    file "ticketing.services.auth" "ABC TrustedHostVerifier ApprovedIdentities"
      "abstractmethod Iterable IdentityVerifier",
    file "ticketing.services.event_service"
      "Decimal! EventChanges TierChanges EventStateMachine TrustedHostVerifier"
      ("logging Callable Sequence replace datetime timezone signals ticketing_setting " ++
        "Capacity Event EventId EventStatus Money TicketTier TierSpec EventError " ++
        "EventErrorCode EventNotFoundError IdentityVerifier EventStore logger parse_event_id " ++
        "EventService _require_text _build_price"),
    file "ticketing.services.funds" "ABC defaultdict! Decimal! InMemoryFunds"
      "logging threading abstractmethod logger FundsTransfer",
    file "ticketing.services.payment_service" "Decimal! TrustedHostVerifier"
      ("logging Callable datetime timezone signals ticketing_setting EscrowConfig EventId " ++
        "Money PaymentRecord PaymentStatus PaymentError PaymentErrorCode PaymentNotFoundError " ++
        "IdentityVerifier FundsTransfer PaymentStore logger PaymentService _parse_event_id " ++
        "_positive_amount"),
    file "ticketing.services.registration_service" "TrustedHostVerifier"
      ("logging Callable replace datetime timezone signals Event EventId EventStatus " ++
        "Registration EventError EventErrorCode EventNotFoundError IdentityVerifier " ++
        "parse_event_id EventStore RegistrationStore logger RegistrationBackend " ++
        "RegistrationService"),
    file "ticketing.services.ticket_service" "TicketStateMachine TrustedHostVerifier"
      ("logging Callable replace datetime timezone signals EventId EventStatus Ticket " ++
        "TicketStatus TicketError TicketErrorCode TicketNotFoundError IdentityVerifier " ++
        "EventStore TicketStore logger _MINTABLE_EVENT_STATUSES TicketService _parse_event_id"),
    file "ticketing.signals" "Signal"
      ("logging receiver logger event_created event_updated event_status_changed " ++
        "event_cancelled attendee_registered payment_received ticket_minted " ++
        "ticket_transferred ticket_used ticket_cancelled NOTIFICATIONS _NAMES " ++
        "notification_name log_notification"),
    package "ticketing.stores" "django_store interfaces memory_store" "" "",
    file "ticketing.stores.django_store" "Decimal! DjangoStore"
      ("transaction F orm Capacity EscrowConfig Event EventId EventStatus Money " ++
        "PaymentRecord PaymentStatus Registration Ticket TicketStatus TicketTier EventStore " ++
        "PaymentStore RegistrationStore TicketStore PAYMENT_COUNTER TICKET_COUNTER " ++
        "_apply_event _event_to_domain _apply_ticket _ticket_to_domain"),
    file "ticketing.stores.interfaces" "ABC Decimal!"
      ("abstractmethod AbstractContextManager EscrowConfig Event EventId PaymentRecord " ++
        "Registration Ticket UnitOfWork EventStore RegistrationStore PaymentStore TicketStore"),
    file "ticketing.stores.memory_store"
      "dataclass:function field:Field Decimal! _Tables InMemoryStore"
      ("threading Callable Iterator contextmanager EscrowConfig Event EventId PaymentRecord " ++
        "Registration Ticket EventStore PaymentStore RegistrationStore TicketStore " ++
        "PAYMENT_COUNTER TICKET_COUNTER _MISSING")]

end BoxOffice.Part.Module
