import GrpcSample.Lib.Lockout
import GrpcSample.Breaker.Load
import GrpcSample.Breaker.Recovery
import GrpcSample.Breaker.Clock
import GrpcSample.Breaker.Start
import GrpcSample.Breaker.Stale
import GrpcSample.Retry.Requests
import GrpcSample.Retry.Schedule
import GrpcSample.Retry.Delivery
import GrpcSample.Client.Rejection
import GrpcSample.Client.Transparency
import GrpcSample.Auth.Interop
import GrpcSample.Auth.Access
import GrpcSample.Server.Protocol
import GrpcSample.Server.Broken
import GrpcSample.Breaker.Threads
import GrpcSample.Client.Conversation
import GrpcSample.Client.Session
import GrpcSample.Client.Sharing
import GrpcSample.Client.Resilience
import GrpcSample.Breaker.Trial
import GrpcSample.Client.Watching
import GrpcSample.Client.Refusal
import GrpcSample.Auth.Signing
