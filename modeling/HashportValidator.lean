import HashportValidator.GoInt
import HashportValidator.Encoding
import HashportValidator.Router
import HashportValidator.Handlers
import HashportValidator.ProcessLogs
import HashportValidator.Watcher
import HashportValidator.WatcherRun
import HashportValidator.Delivery
import HashportValidator.TransferRepository
import HashportValidator.WrappedTokenScript
